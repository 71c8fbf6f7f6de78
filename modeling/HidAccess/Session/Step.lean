import HidAccess.DeviceList
import HidAccess.Handle.Read

/-!
# Steps of a session

What a user does with one manager and the handles opened through it. Handles and kept listings go by
names. `A` is what the user can do with the backend's own side, such as feeding a virtual device, and `R`
is what that answers.
-/

namespace HidAccess

inductive Step (A : Type) where
  | enumerate (vendorId productId : UInt16) (keepAs : Option String)
  | list (name : String) (path : Option String)
  | openIds (name : String) (vendorId productId : UInt16) (serial : Option String)
  | openPath (name path : String)
  | setInterval (interval : Duration)
  | showManager
  | showKind
  | read (name : String) (length : Nat) (timeout : Option Duration)
  | readData (name : String) (length : Nat)
  /-- Reads in one thread; after some time the other steps run in another. -/
  | readWhile (name : String) (length : Nat) (timeout : Option Duration) (after : Duration)
      (others : List (Step A))
  | write (name : String) (report : Bytes)
  | sendFeature (name : String) (report : Bytes)
  | getFeature (name : String) (id : UInt8) (length : Nat)
  | text (name : String) (query : StringQuery)
  | setBlocking (name : String) (blocking : Bool)
  | close (name : String)
  | drop (name : String)
  | showState (name : String)
  | showHandle (name : String)
  | onBackend (action : A)
  | unknown (name : String)

instance {A : Type} : Inhabited (Step A) := ⟨.showManager⟩

inductive Reply (R : Type) where
  | done
  | text (s : String)
  | optionalText (s : Option String)
  | count (n : Nat)
  | bytes (report : Bytes)
  | optionalBytes (report : Option Bytes)
  | outcome (o : ReadOutcome)
  | entries (devices : DeviceList)
  | listing (devices : DeviceList) (found : Option DeviceEntry)
  | state (path : String) (blocking closed : Bool)
  | failed (e : AccessError)
  | concurrent (read : Reply R) (others : List (Reply R))
  | onBackend (r : R)
  | noHandle
  | noList
  | unknownStep
  /-- The call crashed, or it has no end. -/
  | unanswerable
  deriving Inhabited

namespace Reply

variable {R α : Type}

def ofExcept (f : α → Reply R) : Except AccessError α → Reply R
  | .ok a => f a
  | .error e => .failed e

def ofCall (f : α → Reply R) : CallResult α → Reply R
  | .returned r => ofExcept f r
  | .crashed _ => .unanswerable

def ofRead (f : ReadOutcome → Reply R) : ReadEnd → Reply R
  | .returned r => ofExcept f r
  | .crashed _ | .waiting => .unanswerable

def isUnanswerable : Reply R → Bool
  | .unanswerable => true
  | _ => false

end Reply

end HidAccess
