import HidAccess.CommandLine.Given
import HidAccess.Terminal

/-!
# Requests

What an accepted command line asks for. A device is named by its path alone, or by both ids and perhaps a
serial number, or not at all.
-/

namespace HidAccess

inductive CommandRequest where
  | list (vendorId productId : UInt16) (json : Bool)
  | info (target : Target)
  | read (target : Target) (length timeoutMillis : Option Nat) (count : Nat) (nonblocking : Bool)
  | poll (target : Target) (report : Bytes) (attempts intervalMillis : Nat) (length : Option Nat)
  deriving DecidableEq, Repr

def CommandRequest.standard : CommandRequest := .list 0 0 false

structure Arguments where
  config : Option String := none
  backend : Option BackendKind := none
  logLevel : Option String := none
  request : Option CommandRequest := none
  deriving DecidableEq, Repr, Inhabited

namespace Target

/-- A path stands beside another way to name a device. -/
def isAmbiguous (t : Target) : Bool :=
  t.path.isSome && (t.vendorId.isSome || t.productId.isSome || t.serial.isSome)

/-- One id stands without the other, or a serial number without ids. -/
def isIncomplete (t : Target) : Bool :=
  t.vendorId.isSome != t.productId.isSome || (t.serial.isSome && t.vendorId.isNone)

def checked (t : Target) : Except UsageError Target :=
  if t.isAmbiguous then .error .conflict
  else if t.isIncomplete then .error .missingOption
  else .ok t

end Target

namespace Given

def defaultCount : Nat := 1
def defaultAttempts : Nat := 10
def defaultIntervalMillis : Nat := 100

def reportOf (g : Given) : Except UsageError Bytes :=
  match g.report with
  | some report => .ok report
  | none => .error .missingOption

def request (g : Given) : CommandName → Except UsageError CommandRequest
  | .list => .ok (.list (g.target.vendorId.getD 0) (g.target.productId.getD 0) g.json)
  | .info => g.target.checked.map .info
  | .read =>
    g.target.checked.map fun target =>
      .read target g.length g.timeoutMillis (g.count.getD defaultCount) g.nonblocking
  | .poll =>
    match g.target.checked, g.reportOf with
    | .error e, _ | .ok _, .error e => .error e
    | .ok target, .ok report =>
      .ok (.poll target report (g.attempts.getD defaultAttempts)
        (g.intervalMillis.getD defaultIntervalMillis) g.length)

end Given

/-- The task of a request, given how long a report is if the request does not say so. -/
def CommandRequest.task (reportLength : Nat) : CommandRequest → Task
  | .list vendorId productId json => .list vendorId productId json
  | .info target => .info target
  | .read target length timeoutMillis count nonblocking =>
    .read
      { target, length := length.getD reportLength, timeout := timeoutMillis.map Duration.millis, count,
        nonblocking }
  | .poll target report attempts intervalMillis length =>
    .poll
      { target, report, attempts, interval := Duration.millis intervalMillis,
        length := length.getD reportLength }

end HidAccess
