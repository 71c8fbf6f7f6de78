import HidAccess.Proofs.Handle.Lifecycle
import HidAccess.VirtualBus

/-! A handle whose device turned out to be gone acts as closed, but for its first close. What looks
only at the flag does not see that the device is gone: the mode can still be switched. -/

namespace HidAccess.Handle
variable {W D : Type}

/-- How a retired handle acts: its own close succeeds, all else is refused and has no effect. -/
def Turn.IsRetired (t : Turn D) (ended : Bool) : Prop :=
  t.calls = [] ∧
    if t.operation = .close ∧ ended = false then t.answer = .done
    else t.answer = .failed .handleClosed ∧ t.after = t.before

theorem any_givesUp_of_disconnects {past : List (Turn D)} (h : past.any Turn.disconnects = true) :
    past.any Turn.givesUp = true := by
  obtain ⟨t, hm, ht⟩ := List.any_eq_true.mp h
  exact List.any_eq_true.mpr ⟨t, hm, by simp [Turn.givesUp, ht]⟩

variable (c : DeviceCalls W D Received) (now : W → Instant × W)

theorem isRetired_of_refused {d : D} {life : Life W D} (hs : life.Settled d) {o : Operation}
    (hg : life.past.any Turn.givesUp = true) (ho : o = .close → life.past.any Turn.ends = true)
    (ha : (life.turn c now o).1.answer = .failed .handleClosed) :
    (life.turn c now o).1.IsRetired (life.past.any Turn.ends) := by
  obtain ⟨used, -, hcalls⟩ := calls_of_settled c now hs o
  refine ⟨by simpa [hg] using hcalls, ?_⟩
  rw [if_neg fun h => by simp [ho h.1] at h]
  exact ⟨ha, (turn_regular c now life o).failed _ ha rfl⟩

theorem not_isRetired_of_crashed {t : Turn D} {crash : Crash} (ha : t.answer = .crashed crash) (ended : Bool) :
    ¬ t.IsRetired ended := by
  rintro ⟨-, hr⟩
  split at hr
  · simp [ha] at hr
  · simp [ha] at hr

theorem open_transfer_iff {d : D} {life : Life W D} (hs : life.Settled d)
    (hg : life.past.any Turn.givesUp = true) (he : life.past.any Turn.ends = false) {o : Operation}
    (ho : o.transfers = true) (hw : o.WellFormed) :
    (life.turn c now o).1.IsRetired false ↔ o.crash? false (now life.world).1 = none := by
  have hclosed : life.handle.closed = false := hs.closed.trans he
  cases hcrash : o.crash? false (now life.world).1 with
  | some crash =>
    have ha := (turn_crashed_iff c now life o crash).mpr ⟨hw, hclosed.symm ▸ hcrash⟩
    exact iff_of_false (not_isRetired_of_crashed ha false) nofun
  | none =>
    have hl : life.handle.live? = none := live?_of_device (by simpa [hg] using hs.device)
    have ha : (life.turn c now o).1.answer = .failed .handleClosed :=
      perform_of_not_live c.logged (Logged.clock now) ho hw hl (hclosed.symm ▸ hcrash)
    have hc : o ≠ .close := by
      rintro rfl
      cases ho
    exact iff_of_true (he ▸ isRetired_of_refused c now hs hg (fun h => absurd h hc) ha) rfl

/-- After a disconnect, a request that asks for something is answered as by a closed handle exactly
if it does not crash, and does not switch the mode of a handle that is not closed. It crashes exactly if its
buffer is longer than any can be or its deadline one that the clock cannot show, and a closed handle refuses
a read whatever its buffer and its deadline are. -/
theorem retired_iff (path : String) (d : D) (interval : Duration) (w : W) (past : List Operation)
    (o : Operation) (hw : o.WellFormed) (hd : o ≠ .drop) :
    let life := (Life.opened path d interval w).run c now past
    let ended := life.past.any Turn.ends
    life.past.any Turn.disconnects = true →
      ((life.turn c now o).1.IsRetired ended ↔
        o.crash? ended (now life.world).1 = none ∧ (ended = true ∨ o.switchesMode = false)) := by
  intro life ended hgone
  have hs : life.Settled d := settled_run c now (settled_opened path d interval w) past
  have hg := any_givesUp_of_disconnects hgone
  have hdevice : life.handle.device = none := by simpa [hg] using hs.device
  cases he : ended with
  | true =>
    have hclosed : life.handle.closed = true := hs.closed.trans he
    cases hcrash : o.crash? true (now life.world).1 with
    | some crash =>
      have ha := (turn_crashed_iff c now life o crash).mpr ⟨hw, hclosed.symm ▸ hcrash⟩
      exact iff_of_false (not_isRetired_of_crashed ha true) fun h => nomatch h.1
    | none =>
      have ha : (life.turn c now o).1.answer = .failed .handleClosed :=
        perform_of_closed c.logged (Logged.clock now) hd hw hclosed hcrash
      exact iff_of_true (he ▸ isRetired_of_refused c now hs hg (fun _ => he) ha) ⟨rfl, .inl rfl⟩
  | false =>
    have hclosed : life.handle.closed = false := hs.closed.trans he
    obtain ho | ⟨blocking, rfl⟩ | rfl | rfl := o.transfers_or
    · have hm : o.switchesMode = false := by
        simp only [Operation.transfers, Bool.and_eq_true, Bool.not_eq_true'] at ho
        exact ho.2
      rw [open_transfer_iff c now hs hg he ho hw]
      exact (and_iff_left (.inr hm)).symm
    · have ha : (life.turn c now (.setBlocking blocking)).1.answer = .done := by
        rw [turn_setBlocking, hclosed]
        rfl
      simp [Turn.IsRetired, ha, Operation.switchesMode]
    · have ha : (life.turn c now .close).1 = .ended .close life.handle := by
        rw [turn_close, hclosed]
        rfl
      simp [Turn.IsRetired, ha, Turn.ended, hdevice, Operation.switchesMode, Operation.crash?]
    · exact absurd rfl hd

def unpluggedBus : Clocked VirtualBus where
  state := { devices := [{
    path := "virtual:0", spec := { vendorId := 1, productId := 2 }, attached := false,
    openHandles := 1 }] }

def retiredLife : Life (Clocked VirtualBus) Nat :=
  (Life.opened "virtual:0" 0 (Duration.millis 20) unpluggedBus).run
    VirtualBus.backend.clocked.toDeviceCalls (fun b => (b.now, b)) [.write [0, 1]]

def retiredTurn (o : Operation) : Turn Nat :=
  (retiredLife.turn VirtualBus.backend.clocked.toDeviceCalls (fun b => (b.now, b)) o).1

theorem retired_read :
    retiredLife.past.any Turn.disconnects = true ∧
      (retiredTurn (.read 0 8 none)).IsRetired (retiredLife.past.any Turn.ends) :=
  ⟨by decide, (retired_iff VirtualBus.backend.clocked.toDeviceCalls (fun b => (b.now, b))
    "virtual:0" 0 (Duration.millis 20) unpluggedBus [.write [0, 1]] (.read 0 8 none)
    (by simp [Operation.WellFormed]) (by decide) (by decide)).mpr ⟨rfl, .inr rfl⟩⟩

theorem retired_handle_switches_mode :
    retiredLife.past.any Turn.disconnects = true ∧ retiredLife.past.any Turn.ends = false ∧
      (retiredTurn (.setBlocking false)).answer = .done ∧
      (retiredTurn (.setBlocking false)).before.blocking = true ∧
      (retiredTurn (.setBlocking false)).after.blocking = false ∧
      ¬ (retiredTurn (.setBlocking false)).IsRetired false := by
  refine ⟨by decide, by decide, by decide, by decide, by decide, ?_⟩
  rintro ⟨-, h⟩
  rw [if_neg (by decide)] at h
  exact absurd h.1 (by decide)

end HidAccess.Handle
