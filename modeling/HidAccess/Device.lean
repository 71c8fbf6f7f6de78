import HidAccess.AccessError
import HidAccess.Bytes
import HidAccess.Time

/-!
# Open devices

What a backend does with an open device. A world holds everything that device calls can observe or
change; a device is what identifies the opened object in it. A read gets the caller's buffer and at most
so much time to wait; it gives back the buffer, of which it filled a number of bytes at the front.
-/

namespace HidAccess

inductive StringQuery where
  | manufacturer
  | product
  | serial
  | indexed (index : UInt8)
  deriving DecidableEq, Repr

/-- A buffer of which the first `count` bytes hold a report; none when nothing came in time. -/
structure Received where
  count : Nat
  buffer : Bytes
  deriving DecidableEq, Repr

namespace Received

def report (r : Received) : Bytes := r.buffer.take r.count

/-- Puts a report at the front of a buffer, cut to the buffer's length. -/
def fill (buffer report : Bytes) : Received :=
  let n := min report.length buffer.length
  ⟨n, report.take n ++ buffer.drop n⟩

theorem report_fill (buffer report : Bytes) :
    (fill buffer report).report = report.take buffer.length := by
  by_cases h : report.length ≤ buffer.length
  · simp [fill, Received.report, Nat.min_eq_left h, List.take_of_length_le h]
  · have h : buffer.length ≤ report.length := by omega
    simp [fill, Received.report, Nat.min_eq_right h, List.take_take]

end Received

abbrev Outcome (W α : Type) := Except AccessError α × W

/-- The calls of an open device. `R` is what a read brings. -/
structure DeviceCalls (W D R : Type) where
  read : D → (buffer : Bytes) → (patience : Duration) → W → Outcome W R
  write : D → (report : Bytes) → W → Outcome W Nat
  sendFeature : D → (report : Bytes) → W → Outcome W Nat
  /-- The buffer's first byte is the report's id. -/
  getFeature : D → (buffer : Bytes) → W → Outcome W Received
  text : D → StringQuery → W → Outcome W (Option String)
  outputLimit : D → W → Option Nat × W
  release : D → W → W

namespace DeviceCalls

def noIndexedText : AccessError :=
  .unsupported "indexed string descriptors are not available on this backend"

def withRead (c : DeviceCalls W D R) (read : D → (buffer : Bytes) → (patience : Duration) → W → Outcome W Q) :
    DeviceCalls W D Q where
  read
  write := c.write
  sendFeature := c.sendFeature
  getFeature := c.getFeature
  text := c.text
  outputLimit := c.outputLimit
  release := c.release

def lift (get : V → W) (set : V → W → V) (c : DeviceCalls W D R) : DeviceCalls V D R where
  read d buffer patience v := let (r, w) := c.read d buffer patience (get v); (r, set v w)
  write d report v := let (r, w) := c.write d report (get v); (r, set v w)
  sendFeature d report v := let (r, w) := c.sendFeature d report (get v); (r, set v w)
  getFeature d buffer v := let (r, w) := c.getFeature d buffer (get v); (r, set v w)
  text d query v := let (r, w) := c.text d query (get v); (r, set v w)
  outputLimit d v := let (limit, w) := c.outputLimit d (get v); (limit, set v w)
  release d v := set v (c.release d (get v))

end DeviceCalls

end HidAccess
