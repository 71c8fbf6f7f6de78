import HidAccess.BackendKind
import HidAccess.Bytes
import HidAccess.Command
import HidAccess.CommandLine.Grammar
import HidAccess.DeviceId
import HidAccess.Text.Numeral

/-!
# Given options

The options given at one level with their values. Every option is given at most once; a repetition is
noticed before its value is looked at.
-/

namespace HidAccess

structure Given where
  config : Option String := none
  backend : Option BackendKind := none
  logLevel : Option String := none
  target : Target := {}
  length : Option Nat := none
  timeoutMillis : Option Nat := none
  count : Option Nat := none
  report : Option Bytes := none
  attempts : Option Nat := none
  intervalMillis : Option Nat := none
  json : Bool := false
  nonblocking : Bool := false
  deriving Repr, Inhabited

namespace Given

def once {α : Type} (old : Option α) (value : Except UsageError α) : Except UsageError (Option α) :=
  match old, value with
  | some _, _ => .error .conflict
  | none, .ok a => .ok (some a)
  | none, .error e => .error e

def wellFormed {α : Type} : Option α → Except UsageError α
  | some a => .ok a
  | none => .error .malformedValue

def fileName (s : String) : Except UsageError String :=
  if s.isEmpty then .error .missingValue else .ok s

def number (s : String) : Except UsageError Nat := wellFormed (Text.Numeral.read? 10 Text.Numeral.max64 s.toList)

def deviceId (s : String) : Except UsageError UInt16 := wellFormed (DeviceId.read? s)

def put (g : Given) (o : ValueOption) (s : String) : Except UsageError Given :=
  match o with
  | .config => (once g.config (fileName s)).map fun config => { g with config }
  | .backend => (once g.backend (wellFormed (BackendKind.read? s))).map fun backend => { g with backend }
  | .logLevel => (once g.logLevel (.ok s)).map fun logLevel => { g with logLevel }
  | .vendorId =>
    (once g.target.vendorId (deviceId s)).map fun vendorId => { g with target := { g.target with vendorId } }
  | .productId =>
    (once g.target.productId (deviceId s)).map fun productId => { g with target := { g.target with productId } }
  | .path => (once g.target.path (.ok s)).map fun path => { g with target := { g.target with path } }
  | .serial => (once g.target.serial (.ok s)).map fun serial => { g with target := { g.target with serial } }
  | .length => (once g.length (number s)).map fun length => { g with length }
  | .timeout => (once g.timeoutMillis (number s)).map fun timeoutMillis => { g with timeoutMillis }
  | .count => (once g.count (number s)).map fun count => { g with count }
  | .report => (once g.report (wellFormed (Bytes.read? s))).map fun report => { g with report }
  | .attempts => (once g.attempts (number s)).map fun attempts => { g with attempts }
  | .interval => (once g.intervalMillis (number s)).map fun intervalMillis => { g with intervalMillis }

def raise (g : Given) (f : Flag) : Except UsageError Given :=
  match f with
  | .json => if g.json then .error .conflict else .ok { g with json := true }
  | .nonblocking => if g.nonblocking then .error .conflict else .ok { g with nonblocking := true }

end Given

end HidAccess
