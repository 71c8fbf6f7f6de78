import HidAccess.CommandLine
import HidAccess.CommandLine.Usage
import HidAccess.Config.Load
import HidAccess.Hidraw.Backend
import HidAccess.LogFilter
import HidAccess.Startup
import HidAccess.VendorDriver.Backend
import HidAccess.VirtualBus

/-!
# The program

A run of the program: its words say what to do and which settings to use, the backend is started, and the
command runs on it. Words and settings are settled before a backend is touched. A run that fails says why;
words that make no command line end it with a status of their own.
-/

namespace HidAccess

structure Surroundings where
  files : FileTree
  settings : String
  logFilter : Option String := none

structure Plan where
  kind : BackendKind
  interval : Duration
  task : Task

inductive ProgramFailure where
  | usage (e : UsageError)
  | run (f : Failure)
  deriving DecidableEq, Repr

namespace ProgramFailure

def status : ProgramFailure → Nat
  | .usage e => if e.isWish then 0 else 2
  | .run (.crashed _) => 101
  | .run _ => 1

def complaint? : ProgramFailure → Option String
  | .usage e => e.complaint?.map ("error: " ++ ·)
  | .run (.crashed crash) => some ("crashed: " ++ crash.text)
  | .run f => some ("error: " ++ f.text)

end ProgramFailure

structure ProgramEnd where
  /-- Nothing for a run without end. -/
  result : Option (Except ProgramFailure Unit)
  printed : String
  files : FileTree

namespace ProgramEnd

def status? (e : ProgramEnd) : Option Nat :=
  e.result.map fun r => match r with
    | .ok () => 0
    | .error f => f.status

def complaint? (e : ProgramEnd) : Option String :=
  match e.result with
  | some (.error f) => f.complaint?
  | _ => none

end ProgramEnd

namespace Program

def settings (build : Build) (s : Surroundings) (a : Arguments) : Except Failure Config :=
  match Config.loadOrDefault build s.files s.settings a.config with
  | .error e => .error (.access e)
  | .ok c => .ok { c with kind := a.backend <|> c.kind }

def plan (build : Build) (s : Surroundings) (a : Arguments) : Except Failure Plan :=
  match settings build s a with
  | .error f => .error f
  | .ok c =>
    match (({} : Logging).start s.logFilter (a.logLevel.getD c.logLevel)).1 with
    | .error e => .error (.access e)
    | .ok () =>
      match c.start build none with
      | .error e => .error (.within "cannot start device manager" e)
      | .ok kind =>
        .ok { kind, interval := c.pollInterval, task := (a.request.getD .standard).task c.reportLength }

def runOn {S D : Type} (b : Backend S D Arrival) (state : S) (files : S → FileTree) (p : Plan) : ProgramEnd :=
  let (r, t) := p.task.run b p.interval { world := { state } }
  { result := r.map (Except.mapError .run), printed := t.text, files := files t.world.state }

/-- Runs a plan. Only the kernel's nodes are files; everything else starts without devices. -/
def execute (files : FileTree) (p : Plan) : ProgramEnd :=
  match p.kind with
  | .hidraw => runOn (HidrawPaths.backend {}) files (fun t => t) p
  | .virtual => runOn VirtualBus.backend {} (fun _ => files) p
  | .libusb => runOn UsbBus.backend {} (fun _ => files) p
  | .hidapi => runOn VendorLibrary.backend {} (fun _ => files) p

def run (build : Build) (s : Surroundings) (words : List String) : ProgramEnd :=
  match Arguments.read words with
  | .error e => { result := some (.error (.usage e)), printed := e.answer, files := s.files }
  | .ok a =>
    match plan build s a with
    | .error f => { result := some (.error (.run f)), printed := "", files := s.files }
    | .ok p => execute s.files p

end Program

end HidAccess
