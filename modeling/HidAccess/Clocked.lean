import HidAccess.Backend
import HidAccess.Time

/-!
# Waiting

A world with a clock. A backend that is polled says what is there, or that nothing is there and how long
it would wait; the clock then moves on by that time. An event may be due at some instant: the clock does
not pass it while it is due, so a wait that it falls into ends there.
-/

namespace HidAccess

/-- The answer of a device that is polled. -/
inductive Arrival where
  | now (r : Received)
  | nothing (wait : Duration)
  deriving DecidableEq, Repr

def Arrival.received (buffer : Bytes) : Arrival → Received
  | .now r => r
  | .nothing _ => ⟨0, buffer⟩

structure Clocked (S : Type) where
  now : Instant := 0
  due : Option Instant := none
  state : S

namespace Clocked

variable {S D : Type}

def clock (c : Clocked S) : Instant × Clocked S := (c.now, c)

def wait (d : Duration) (c : Clocked S) : Clocked S :=
  match c.due with
  | some t => { c with now := max c.now (min (c.now + d) t) }
  | none => { c with now := c.now + d }

def isDue (c : Clocked S) : Bool :=
  match c.due with
  | some t => decide (t ≤ c.now)
  | none => false

def read (b : Backend S D Arrival) (d : D) (buffer : Bytes) (patience : Duration) (c : Clocked S) :
    Outcome (Clocked S) Received :=
  match b.read d buffer patience c.state with
  | (.error e, s) => (.error e, { c with state := s })
  | (.ok (.now r), s) => (.ok r, { c with state := s })
  | (.ok (.nothing d), s) => (.ok ⟨0, buffer⟩, wait d { c with state := s })

end Clocked

def Backend.clocked {S D : Type} (b : Backend S D Arrival) : Backend (Clocked S) D Received :=
  (b.lift Clocked.state fun c state => { c with state }).withRead (Clocked.read b)

end HidAccess
