import HidAccess.Handle

/-!
# Reading from a handle

A read is a series of device reads, none longer than the handle's interval and none past the deadline; a
non-blocking read is a single one that does not wait. The mode is the one in force when the read starts.
The deadline and the buffer are settled before the first device read, so a read that crashes has made none.
The first device read that brings bytes ends the read. A blocking read without data goes on until its
deadline, if it has one, so the definition counts device reads; a read that has used up the given number
is still waiting.
-/

namespace HidAccess

inductive ReadOutcome where
  | data (report : Bytes)
  /-- Non-blocking, and nothing was pending. -/
  | wouldBlock
  /-- Blocking, and nothing came before the deadline. -/
  | timedOut
  deriving DecidableEq, Repr

def ReadOutcome.data? : ReadOutcome → Option Bytes
  | .data report => some report
  | _ => none

inductive ReadEnd where
  | returned (r : Except AccessError ReadOutcome)
  | crashed (crash : Crash)
  /-- The allowed number of device reads is used up. -/
  | waiting

/-- A read that has started: the mode and the deadline it started with, and its buffer. -/
structure Reading where
  blocking : Bool
  deadline : Option Instant
  buffer : Bytes
  deriving Repr

namespace Reading

def slice (r : Reading) (interval : Duration) (now : Instant) : Duration :=
  if !r.blocking then 0
  else match r.deadline with
    | none => interval
    | some t => min (t - now) interval

def isPast (r : Reading) (now : Instant) : Bool :=
  match r.deadline with
  | none => false
  | some t => decide (t ≤ now)

def outcome? (r : Reading) (received : Received) (now : Instant) : Option ReadOutcome :=
  if 0 < received.count then some (.data received.report)
  else if !r.blocking then some .wouldBlock
  else if r.isPast now then some .timedOut
  else none

def after (r : Reading) (received : Received) (now : Instant) : Except ReadEnd Reading :=
  match r.outcome? received now with
  | some outcome => .error (.returned (.ok outcome))
  | none => .ok { r with buffer := received.buffer }

end Reading

namespace Handle

variable {W D : Type}

def emptyRead : AccessError := .validation "read length must be non-zero"

/-- What a read crashes with before it comes to the device. Its deadline is settled before its buffer is made. -/
def readCrash? (length : Nat) (timeout : Option Duration) (now : Instant) : Option Crash :=
  if timeout.all fun d => (now.after? d).isSome then bufferCrash? length else some .beyondClock

def reading (h : Handle D) (length : Nat) (deadline : Option Instant) : Reading :=
  { blocking := h.blocking, deadline, buffer := List.replicate length 0 }

def startRead (length : Nat) (timeout : Option Duration) (now : Instant) (h : Handle D) :
    Except ReadEnd Reading :=
  if length = 0 then .error (.returned (.error emptyRead))
  else match h.ensureOpen with
    | .error e => .error (.returned (.error e))
    | .ok () =>
      match readCrash? length timeout now with
      | some crash => .error (.crashed crash)
      | none => .ok (h.reading length (timeout.bind now.after?))

def readSlice (p : Platform W D) (r : Reading) (h : Handle D) (w : W) : Except ReadEnd Reading × Handle D × W :=
  let (now, w) := p.now w
  match withDevice p (fun d w => p.read d r.buffer (r.slice h.interval now) w) h w with
  | (.error e, h, w) => (.error (.returned (.error e)), h, w)
  | (.ok received, h, w) =>
    let (now, w) := p.now w
    (r.after received now, h, w)

def readSlices (p : Platform W D) : (slices : Nat) → Reading → Handle D → W → ReadEnd × Handle D × W
  | 0, _, h, w => (.waiting, h, w)
  | slices + 1, r, h, w =>
    match readSlice p r h w with
    | (.error ended, h, w) => (ended, h, w)
    | (.ok r, h, w) => readSlices p slices r h w

def read (p : Platform W D) (slices length : Nat) (timeout : Option Duration) (h : Handle D) (w : W) :
    ReadEnd × Handle D × W :=
  let (h, w) := p.meanwhile h w
  let (now, w) := p.now w
  match h.startRead length timeout now with
  | .error ended => (ended, h, w)
  | .ok r => readSlices p slices r h w

end Handle

end HidAccess
