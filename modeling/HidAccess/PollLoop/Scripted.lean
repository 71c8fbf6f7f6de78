import HidAccess.PollLoop

/-!
# Scripted attempts

A loop whose attempts follow a script: the stop flag raised, an error, a value, or nothing.
-/

namespace HidAccess

structure ScriptedAttempt where
  raisesStop : Bool := false
  failure : Option AccessError := none
  value : Option Int := none
  deriving Repr

/-- What a scripted loop has done: the flag, and the numbers of its attempts, newest first. -/
structure ScriptedPoll where
  stop : Bool
  made : List Nat := []
  deriving Repr

namespace ScriptedPoll

/-- Takes the entry of that number, the last one for all later numbers. -/
def entry (script : List ScriptedAttempt) (n : Nat) : ScriptedAttempt :=
  (script[min n (script.length - 1)]?).getD {}

def attempt (script : List ScriptedAttempt) (n : Nat) (s : ScriptedPoll) :
    Except AccessError (Option Int) × ScriptedPoll :=
  let e := entry script n
  let s := { s with stop := s.stop || e.raisesStop, made := n :: s.made }
  match e.failure with
  | some f => (.error f, s)
  | none => (.ok e.value, s)

def attempts (script : List ScriptedAttempt) : Attempts ScriptedPoll Int where
  stopped s := s.stop
  attempt := attempt script
  pause _ s := s

/-- Runs a loop on a script; past its end only a budget can still end the loop. -/
def run (p : PollLoop) (script : List ScriptedAttempt) (stop : Bool) :
    Option (Except AccessError (PollOutcome Int)) × ScriptedPoll :=
  p.run (attempts script) (script.length + p.budget.getD 0 + 1) { stop }

end ScriptedPoll

end HidAccess
