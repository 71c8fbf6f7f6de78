import HidAccess.AccessError
import HidAccess.Time

/-!
# Repeated attempts

Makes attempts number 0, 1, 2, … with a pause between them, until one yields a value, one fails, the
budget is used up, or the stop flag is seen. The flag is looked at before each attempt and never after it:
a value counts even when the flag was raised during its attempt. After an attempt that brought nothing the
budget comes first, so the last attempt ends the loop as exhausted.
-/

namespace HidAccess

structure PollLoop where
  interval : Duration
  /-- The most attempts; without a budget there is no end to them. -/
  budget : Option Nat := none
  deriving Repr

inductive PollOutcome (α : Type) where
  | completed (value : α) (attempts : Nat)
  | exhausted (attempts : Nat)
  | stopped (attempts : Nat)
  deriving Repr

/-- What a loop is run on: the stop flag, one attempt, and a pause. -/
structure Attempts (S α : Type) where
  stopped : S → Bool
  attempt : Nat → S → Except AccessError (Option α) × S
  pause : Duration → S → S

namespace PollLoop

variable {S α : Type}

def isSpent (p : PollLoop) (attempts : Nat) : Bool :=
  match p.budget with
  | some n => decide (n ≤ attempts)
  | none => false

/-- Goes on after so many attempts; nothing when `fuel` attempts later there is still no end. -/
def runFrom (p : PollLoop) (a : Attempts S α) :
    (fuel attempts : Nat) → S → Option (Except AccessError (PollOutcome α)) × S
  | 0, _, s => (none, s)
  | fuel + 1, attempts, s =>
    if a.stopped s then (some (.ok (.stopped attempts)), s)
    else if p.isSpent attempts then (some (.ok (.exhausted attempts)), s)
    else
      match a.attempt attempts s with
      | (.error e, s) => (some (.error e), s)
      | (.ok (some value), s) => (some (.ok (.completed value (attempts + 1))), s)
      | (.ok none, s) =>
        if p.isSpent (attempts + 1) then (some (.ok (.exhausted (attempts + 1))), s)
        else runFrom p a fuel (attempts + 1) (a.pause p.interval s)

def run (p : PollLoop) (a : Attempts S α) (fuel : Nat) (s : S) :
    Option (Except AccessError (PollOutcome α)) × S :=
  runFrom p a fuel 0 s

end PollLoop

end HidAccess
