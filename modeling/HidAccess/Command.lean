import HidAccess.Bytes
import HidAccess.Manager
import HidAccess.PollLoop
import HidAccess.DeviceEntry.Json
import HidAccess.Handle.Read

/-!
# Commands

What the command line does with a manager: list devices, show one device's strings, read reports, and
write a report until a response comes. Reading and polling install an interrupt handler, which raises the
stop flag and then closes the handle; a handle that it closed is no failure. A read that crashes ends the
command where it stands.
-/

namespace HidAccess

structure Target where
  path : Option String := none
  vendorId : Option UInt16 := none
  productId : Option UInt16 := none
  serial : Option String := none
  deriving DecidableEq, Repr, Inhabited

structure ReadRequest where
  target : Target
  length : Nat
  timeout : Option Duration := none
  /-- How many reports to read; 0 for no end. -/
  count : Nat := 1
  nonblocking : Bool := false
  deriving Repr

structure PollRequest where
  target : Target
  report : Bytes
  /-- How many attempts to make; 0 for no end. -/
  attempts : Nat := 10
  interval : Duration := Duration.millis 100
  length : Nat
  deriving Repr

inductive Failure where
  | access (e : AccessError)
  | within (context : String) (e : AccessError)
  | noTarget
  | crashed (crash : Crash)
  deriving DecidableEq, Repr

def Failure.text : Failure → String
  | .access e => e.message
  | .within context e => context ++ ": " ++ e.message
  | .noTarget => "specify a device with --path or --vid/--pid"
  | .crashed crash => crash.text

/-- A platform with a place to print to and an interrupt handler. -/
structure Console (W D : Type) extends Platform W D where
  print : String → W → W
  stopped : W → Bool
  installHandler : W → W
  sleep : Duration → W → W

abbrev Ending (W α : Type) := Option (Except α Unit) × W

namespace Command

variable {W D : Type}

def openTarget (m : Manager W D) (t : Target) (w : W) : Except Failure (Handle D) × W :=
  let opened (r : Outcome W (Handle D)) : Except Failure (Handle D) × W :=
    (r.1.mapError (.within "cannot open device"), r.2)
  match t.path, t.vendorId, t.productId with
  | some path, _, _ => opened (m.openPath path w)
  | none, some vendorId, some productId => opened (m.openIds vendorId productId t.serial w)
  | none, _, _ => (.error .noTarget, w)

def list (c : Console W D) (m : Manager W D) (vendorId productId : UInt16) (json : Bool) (w : W) :
    Except Failure Unit × W :=
  match m.enumerate vendorId productId w with
  | (.error e, w) => (.error (.within "device enumeration failed" e), w)
  | (.ok devices, w) =>
    let text := if json then devices.toJson.indented ++ "\n" else devices.text
    (.ok (), c.print text w)

def stringLine (label : String) (value : Option String) : String :=
  label ++ " : " ++ value.getD "-" ++ "\n"

def printStrings (c : Console W D) : List (String × StringQuery) → Handle D → W →
    Except AccessError Unit × Handle D × W
  | [], h, w => (.ok (), h, w)
  | (label, query) :: rest, h, w =>
    match h.text c.toPlatform query w with
    | (.error e, h, w) => (.error e, h, w)
    | (.ok value, h, w) => printStrings c rest h (c.print (stringLine label value) w)

def infoStrings : List (String × StringQuery) :=
  [("manufacturer", .manufacturer), ("product     ", .product), ("serial      ", .serial)]

def info (c : Console W D) (m : Manager W D) (t : Target) (w : W) : Except Failure Unit × W :=
  match openTarget m t w with
  | (.error e, w) => (.error e, w)
  | (.ok h, w) =>
    let w := c.print (stringLine "path        " (some h.path)) w
    let (r, h, w) : Except AccessError Unit × Handle D × W :=
      match printStrings c infoStrings h w with
      | (.ok (), h, w) => h.close c.toPlatform w
      | failed => failed
    (r.mapError .access, (h.drop c.toPlatform w).2)

/-- An error that only says that the interrupt handler closed the handle. -/
def isInterruption (c : Console W D) (e : AccessError) (w : W) : Bool :=
  e == .handleClosed && c.stopped w

def finish (c : Console W D) (h : Handle D) (w : W) : Except AccessError Unit × Handle D × W :=
  match h.close c.toPlatform w with
  | (.error e, h, w) => (if isInterruption c e w then .ok () else .error e, h, w)
  | closed => closed

def readReports (c : Console W D) (slices : Nat) (q : ReadRequest) :
    (fuel received : Nat) → Handle D → W → Option (Except Failure Unit) × Handle D × W
  | 0, _, h, w => (none, h, w)
  | fuel + 1, received, h, w =>
    if q.count ≠ 0 ∧ q.count ≤ received then (some (.ok ()), h, w)
    else
      match h.read c.toPlatform slices q.length q.timeout w with
      | (.returned (.ok (.data report)), h, w) =>
        readReports c slices q fuel (received + 1) h (c.print (report.spaced ++ "\n") w)
      | (.returned (.ok .wouldBlock), h, w) => (some (.ok ()), h, c.print "(no report pending)\n" w)
      | (.returned (.ok .timedOut), h, w) => (some (.ok ()), h, c.print "(timed out)\n" w)
      | (.returned (.error e), h, w) =>
        (some (if isInterruption c e w then .ok () else .error (.access e)), h, w)
      | (.crashed crash, h, w) => (some (.error (.crashed crash)), h, w)
      | (.waiting, h, w) => (none, h, w)

def prepare (c : Console W D) (m : Manager W D) (t : Target) (blocking : Bool) (w : W) :
    Except Failure (Handle D) × W :=
  match openTarget m t w with
  | (.error e, w) => (.error e, w)
  | (.ok h, w) =>
    match h.setBlocking c.toPlatform blocking w with
    | (.error e, _, w) => (.error (.access e), w)
    | (.ok (), h, w) => (.ok h, c.installHandler w)

/-- Finishes after a success and leaves the handle to the interrupt handler after a failure. -/
def finishAfter (c : Console W D) :
    Option (Except Failure Unit) × Handle D × W → Option (Except Failure Unit) × Handle D × W
  | (some (.ok ()), h, w) =>
    let (r, h, w) := finish c h w
    (some (r.mapError .access), h, w)
  | unfinished => unfinished

/-- Reading on a handle that is ready for it. -/
def readWith (c : Console W D) (slices fuel : Nat) (q : ReadRequest) (h : Handle D) (w : W) :
    Option (Except Failure Unit) × Handle D × W :=
  finishAfter c (readReports c slices q fuel 0 h w)

def read (c : Console W D) (m : Manager W D) (slices fuel : Nat) (q : ReadRequest) (w : W) :
    Ending W Failure :=
  match prepare c m q.target (!q.nonblocking) w with
  | (.error e, w) => (some (.error e), w)
  | (.ok h, w) =>
    let (r, _, w) := readWith c slices fuel q h w
    (r, w)

/-- What puts an end to the attempts: a response or a crash. -/
abbrev Response := Except Crash Bytes

def exchange (c : Console W D) (slices : Nat) (q : PollRequest) (s : Handle D × W) :
    Except AccessError (Option Response) × Handle D × W :=
  match s.1.write c.toPlatform q.report s.2 with
  | (.error e, h, w) => (.error e, h, w)
  | (.ok _, h, w) =>
    match h.read c.toPlatform slices q.length none w with
    | (.returned r, h, w) => (r.map fun outcome => outcome.data?.map .ok, h, w)
    | (.crashed crash, h, w) => (.ok (some (.error crash)), h, w)
    | (.waiting, h, w) => (.ok none, h, w)

def attempts (c : Console W D) (slices : Nat) (q : PollRequest) : Attempts (Handle D × W) Response where
  stopped s := c.stopped s.2
  attempt _ := exchange c slices q
  pause d s := c.meanwhile s.1 (c.sleep d s.2)

def pollLoop (q : PollRequest) : PollLoop where
  interval := q.interval
  budget := if q.attempts = 0 then none else some q.attempts

def pollNotice : PollOutcome Response → Except Crash String
  | .completed response _ => response.map fun report => report.spaced ++ "\n"
  | .exhausted attempts => .ok ("(no response after " ++ toString attempts ++ " attempts)\n")
  | .stopped _ => .ok "(interrupted)\n"

def conclude (c : Console W D) (outcome : PollOutcome Response) (h : Handle D) (w : W) :
    Option (Except Failure Unit) × Handle D × W :=
  match pollNotice outcome with
  | .ok text => (some (.ok ()), h, c.print text w)
  | .error crash => (some (.error (.crashed crash)), h, w)

def endPoll (c : Console W D) :
    Option (Except AccessError (PollOutcome Response)) × Handle D × W →
    Option (Except Failure Unit) × Handle D × W
  | (none, h, w) => (none, h, w)
  | (some (.ok outcome), h, w) => conclude c outcome h w
  | (some (.error e), h, w) =>
    if isInterruption c e w then conclude c (.stopped 0) h w else (some (.error (.access e)), h, w)

/-- Polling on a handle that is ready for it. -/
def pollWith (c : Console W D) (slices fuel : Nat) (q : PollRequest) (h : Handle D) (w : W) :
    Option (Except Failure Unit) × Handle D × W :=
  finishAfter c (endPoll c ((pollLoop q).run (attempts c slices q) fuel (c.meanwhile h w)))

def poll (c : Console W D) (m : Manager W D) (slices fuel : Nat) (q : PollRequest) (w : W) :
    Ending W Failure :=
  match prepare c m q.target false w with
  | (.error e, w) => (some (.error e), w)
  | (.ok h, w) =>
    let (r, _, w) := pollWith c slices fuel q h w
    (r, w)

end Command

end HidAccess
