import HidAccess.AccessError
import HidAccess.Time

/-!
# Crashes

A deadline that the clock cannot show and a buffer longer than any can be are not errors of an operation:
they end the whole program.
-/

namespace HidAccess

inductive Crash where
  | beyondClock
  | beyondMemory
  deriving DecidableEq, Repr

def Crash.text : Crash → String
  | .beyondClock => "overflow when adding duration to instant"
  | .beyondMemory => "capacity overflow"

/-- How a call on a handle ends for the program. -/
inductive CallResult (α : Type) where
  | returned (r : Except AccessError α)
  | crashed (crash : Crash)

namespace Handle

/-- The longest buffer that can be asked for. -/
def maxBuffer : Nat := 9223372036854775807

def bufferCrash? (length : Nat) : Option Crash :=
  if maxBuffer < length then some .beyondMemory else none

@[simp] theorem bufferCrash?_eq_none_iff {length : Nat} : bufferCrash? length = none ↔ length ≤ maxBuffer := by
  simp [bufferCrash?]

end Handle

end HidAccess
