import HidAccess.Proofs.Handle.Operation
import HidAccess.Proofs.VirtualBus.Queue
import HidAccess.Terminal

/-! When a read crashes. The deadline and the buffer are settled once, before the first device read; from
there on every number is a wait of at most the handle's interval, and a device read or an error is all
that a read can end in. -/

namespace HidAccess

def Duration.longest : Duration := 18446744073709551615 * nanosPerSecond + 999999999

namespace Handle
variable {W D : Type} {p : Platform W D} {h : Handle D} {w : W} {length : Nat}
  {timeout : Option Duration} {now : Instant}

theorem readCrash?_eq_clock_iff :
    readCrash? length timeout now = some .beyondClock ↔ ∃ d ∈ timeout, Instant.limit ≤ now + d := by
  by_cases ht : ∀ d ∈ timeout, now + d < Instant.limit
  · refine iff_of_false ?_ fun ⟨d, hd, hlate⟩ => absurd (ht d hd) (Nat.not_lt.mpr hlate)
    rw [readCrash?_of_timely ht]
    simp [bufferCrash?]
  · have hlate : ∃ d ∈ timeout, Instant.limit ≤ now + d := by simpa using ht
    exact iff_of_true (readCrash?_of_late hlate) hlate

theorem readCrash?_eq_memory_iff : readCrash? length timeout now = some .beyondMemory ↔
    (∀ d ∈ timeout, now + d < Instant.limit) ∧ maxBuffer < length := by
  by_cases ht : ∀ d ∈ timeout, now + d < Instant.limit
  · rw [readCrash?_of_timely ht, and_iff_right ht]
    simp [bufferCrash?]
  · have hlate : ∃ d ∈ timeout, Instant.limit ≤ now + d := by simpa using ht
    rw [readCrash?_of_late hlate]
    exact iff_of_false (by simp) fun h => ht h.1

theorem readSlice_goesOn {r r' : Reading} {x : Handle D × W}
    (hx : h.readSlice p r w = (.ok r', x)) : r.blocking = true := by
  refine (Bool.not_eq_false _).mp fun hr => ?_
  have houtcome (received : Received) (t : Instant) : r.outcome? received t ≠ none := by
    simp only [Reading.outcome?, hr]
    split <;> simp
  simp only [readSlice] at hx
  split at hx
  · cases hx
  · simp only [Reading.after, Prod.mk.injEq] at hx
    split at hx
    · cases hx.1
    · exact absurd ‹_› (houtcome _ _)

theorem readSlices_ended (slices : Nat) (r : Reading) :
    (∃ result, (h.readSlices p slices r w).1 = .returned result) ∨
      (h.readSlices p slices r w).1 = .waiting ∧ (slices = 0 ∨ r.blocking = true) := by
  induction slices generalizing r h w with
  | zero => exact .inr ⟨rfl, .inl rfl⟩
  | succ slices ih =>
    simp only [readSlices]
    rcases hx : h.readSlice p r w with ⟨ended | r', h', w'⟩
    · exact .inl (readSlice_returned hx)
    · exact (ih (h := h') (w := w') r').imp_right fun hwaiting => ⟨hwaiting.1, .inr (readSlice_goesOn hx)⟩

/-- A read of an open handle crashes exactly if its deadline is one that the clock cannot show, or else its
buffer one that cannot be made; it has not come to the device then. Any other read returns an outcome or an
error, or blocks and has not come to an end after so many device reads. -/
theorem read_crashes_iff (p : Platform W D) (h : Handle D) (w : W) (slices : Nat) {length : Nat}
    (timeout : Option Duration) (hlength : length ≠ 0) (hopen : (p.meanwhile h w).1.closed = false) :
    let now := (p.now (p.meanwhile h w).2).1
    let x := h.read p slices length timeout w
    (x.1 = .crashed .beyondClock ↔ ∃ d ∈ timeout, Instant.limit ≤ now + d) ∧
    (x.1 = .crashed .beyondMemory ↔ (∀ d ∈ timeout, now + d < Instant.limit) ∧ maxBuffer < length) ∧
    ((∃ crash, x.1 = .crashed crash) →
      x.2 = ((p.meanwhile h w).1, (p.now (p.meanwhile h w).2).2)) ∧
    ((∀ d ∈ timeout, now + d < Instant.limit) → length ≤ maxBuffer →
      (∃ r, x.1 = .returned r) ∨
        x.1 = .waiting ∧ (slices = 0 ∨ (p.meanwhile h w).1.blocking = true)) := by
  intro now x
  have hcrashed (crash : Crash) : x.1 = .crashed crash ↔ readCrash? length timeout now = some crash := by
    rw [read_eq_crashed_iff]
    simp [hlength, hopen, now]
  have hx : x = _ := read_eq p slices length timeout h w
  rw [startRead_of_open hlength hopen] at hx
  refine ⟨(hcrashed _).trans readCrash?_eq_clock_iff, (hcrashed _).trans readCrash?_eq_memory_iff, ?_, ?_⟩
  · rintro ⟨crash, hcrash⟩
    rw [(hcrashed crash).mp hcrash] at hx
    rw [hx]
  · intro htime hsize
    rw [readCrash?_eq_none_iff.mpr ⟨htime, hsize⟩] at hx
    rw [hx]
    exact readSlices_ended slices _

def padBus : Clocked VirtualBus where
  state := VirtualBus.attach { vendorId := 1, productId := 2 } {}

def padHandle : Handle Nat := .opened "virtual:0" 0 (Duration.millis 20)

theorem pad_read_beyond_clock :
    8 ≠ 0 ∧ (VirtualBus.platform.meanwhile padHandle padBus).1.closed = false ∧
      (padHandle.read VirtualBus.platform 1 8 (some Duration.longest) padBus).1 =
        .crashed .beyondClock := by
  have hcrash := (read_crashes_iff VirtualBus.platform padHandle padBus 1 (some Duration.longest)
    (show 8 ≠ 0 by decide) rfl).1
  exact ⟨by decide, rfl, hcrash.mpr ⟨_, rfl, by decide +kernel⟩⟩

/-- The handle is open and its device attached: nothing is out of the ordinary but a number. The last
one can be given on a command line. -/
theorem long_reads_crash :
    padHandle.closed = false ∧ Duration.longest / Duration.nanosPerSecond ≤ Text.Numeral.max64 ∧
      (padHandle.read VirtualBus.platform 1 1 (some Duration.longest) padBus).1 =
        .crashed .beyondClock ∧
      (padHandle.read VirtualBus.platform 1 (maxBuffer + 1) none padBus).1 =
        .crashed .beyondMemory ∧
      maxBuffer + 1 ≤ Text.Numeral.max64 ∧
      (Command.read (Terminal.console VirtualBus.backend) (Terminal.manager VirtualBus.backend 0) 1 1
        { target := { path := some "virtual:0" }, length := maxBuffer + 1 } { world := padBus }).1 =
          some (.error (.crashed .beyondMemory)) :=
  ⟨rfl, by decide, rfl, rfl, by decide, rfl⟩

end Handle

end HidAccess
