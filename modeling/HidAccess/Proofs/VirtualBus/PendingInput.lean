import HidAccess.Proofs.VirtualBus.Queue

/-! When a read says that nothing is pending. An empty report counts as no report: a read that
finds one at the front of the queue takes it and, unless it goes on, ends as if nothing had come,
whatever is queued behind it. -/

namespace HidAccess

namespace VirtualBus

/-- A clock that may show anything. The world counts the looks at it, and `time` says what they
show. -/
def shows (time : Nat → Instant) (w : Clocked VirtualBus) : Instant × Clocked VirtualBus :=
  (time w.now, { w with now := w.now + 1 })

/-- A read goes on after each of `k` device reads that bring nothing. There are two looks at the
clock for each, the second of them for the deadline. -/
def GoesOn (time : Nat → Instant) (look k : Nat) (r : Reading) : Prop :=
  k = 0 ∨ r.blocking = true ∧ ∀ j < k, r.isPast (time (look + 2 * j)) = false

variable {time : Nat → Instant} {look k : Nat} {r : Reading}

theorem goesOn_zero : GoesOn time look 0 r := .inl rfl

theorem goesOn_succ : GoesOn time look (k + 1) r ↔
    (r.blocking = true ∧ r.isPast (time look) = false) ∧ GoesOn time (look + 2) k r := by
  constructor
  · rintro (h | ⟨hb, hp⟩)
    · cases h
    · refine ⟨⟨hb, hp 0 (Nat.succ_pos k)⟩, .inr ⟨hb, fun j hj => ?_⟩⟩
      have h := hp (j + 1) (Nat.succ_lt_succ hj)
      rwa [show look + 2 * (j + 1) = look + 2 + 2 * j by omega] at h
  · rintro ⟨⟨hb, h0⟩, h⟩
    refine .inr ⟨hb, fun j hj => ?_⟩
    cases j with
    | zero => exact h0
    | succ j =>
      obtain rfl | ⟨-, hp⟩ := h
      · omega
      · rw [show look + 2 * (j + 1) = look + 2 + 2 * j by omega]
        exact hp j (by omega)

variable {h : Handle Nat} {i : Nat} {w : Clocked VirtualBus} {report : Bytes} {rest : List Bytes}

theorem readSlices_pending (time : Nat → Instant) {slices : Nat} (hb : r.buffer.length ≠ 0)
    (hl : h.live? = some i) (hr : report ≠ []) (hk : k < slices)
    (ha : isAttached i w.state = true)
    (hq : queue i w.state = List.replicate k [] ++ report :: rest) :
    (GoesOn time (w.now + 1) k r ∧ (h.readSlices (platformWith (shows time)) slices r w).1 =
      .returned (.ok (.data (report.take r.buffer.length)))) ∨
    (¬ GoesOn time (w.now + 1) k r ∧
      (h.readSlices (platformWith (shows time)) slices r w).1.isNothing = true ∧
      report ∈ queue i (h.readSlices (platformWith (shows time)) slices r w).2.2.state) := by
  -- Each empty report in front costs one device read and two looks at the clock.
  induction k generalizing slices w with
  | zero =>
    obtain ⟨slices, rfl⟩ : ∃ n, slices = n + 1 := ⟨slices - 1, by omega⟩
    have hs := readSlice_of_queued (shows time) (r := r) hl ha hq
    simp only [after_fill hr hb] at hs
    refine .inl ⟨goesOn_zero, ?_⟩
    simp only [Handle.readSlices, hs]
  | succ k ih =>
    obtain ⟨slices, rfl⟩ : ∃ n, slices = n + 1 := ⟨slices - 1, by omega⟩
    rw [List.replicate_succ, List.cons_append] at hq
    have hs := readSlice_of_queued (shows time) (r := r) hl ha hq
    rw [fill_nil] at hs
    have hqueue := queue_setQueue_self ha (List.replicate k [] ++ report :: rest)
    have hattached := (isAttached_setQueue i i (List.replicate k [] ++ report :: rest) _).trans ha
    rw [goesOn_succ]
    obtain ⟨hb', hp, hok⟩ | ⟨hends, ended, herr, hnothing⟩ :=
      after_nothing_cases r (time (w.now + 1))
    · simp only [Handle.readSlices, hs, shows, hok, hb', hp, true_and]
      exact ih (w := { w with now := w.now + 2, state := _ }) (Nat.lt_of_succ_lt_succ hk)
        hattached hqueue
    · simp only [Handle.readSlices, hs, shows, herr]
      exact .inr ⟨fun h => hends h.1, hnothing, by simp [hqueue]⟩

theorem isNothing_of_refusal {ended : ReadEnd} (hr : Handle.ReadRefusal ended) :
    ended.isNothing = false := by
  cases hr <;> rfl

theorem readSlice_misses_iff (hb : r.buffer.length ≠ 0) (hl : h.live? = some i)
    (ha : isAttached i w.state = true) {ended : ReadEnd}
    (he : (h.readSlice (platformWith (shows time)) r w).1 = .error ended)
    (hn : ended.isNothing = true) :
    withContent (queue i (h.readSlice (platformWith (shows time)) r w).2.2.state) ≠ [] ↔
      ∃ rest, queue i w.state = [] :: rest ∧ withContent rest ≠ [] := by
  cases hq : queue i w.state with
  | nil =>
    rw [readSlice_of_empty (shows time) hl ha hq]
    simp [shows, hq]
  | cons report rest =>
    have hs := readSlice_of_queued (shows time) (r := r) hl ha hq
    by_cases hr : report = []
    · rw [hs]
      simp [hr, shows, queue_setQueue_self ha]
    · rw [hs] at he
      simp only [after_fill hr hb] at he
      cases he
      cases hn

/-- On an open handle of an attached device, with nobody else at it and whatever the clock shows: a
read returns the first queued report with content exactly if it asks for something, with a buffer that
can be made and by a deadline that the clock can show, and goes on after every empty report in front; if
it does not go on, it says that nothing came and leaves that report queued. In between, a device read that
ends a read in this way leaves a report with content behind exactly if it took an empty one. -/
theorem nothing_pending_iff (time : Nat → Instant) (hl : h.live? = some i)
    (ha : isAttached i w.state = true) :
    (∀ slices length timeout k report rest,
      queue i w.state = List.replicate k [] ++ report :: rest → report ≠ [] → k < slices →
      let x := h.read (platformWith (shows time)) slices length timeout w
      let starts := length ≠ 0 ∧ length ≤ Handle.maxBuffer ∧ ∀ d ∈ timeout, time w.now + d < Instant.limit
      let goesOn := GoesOn time (w.now + 2) k
        (h.reading length (timeout.bind (time w.now).after?))
      (x.1 = .returned (.ok (.data (report.take length))) ↔ starts ∧ goesOn) ∧
      (x.1.isNothing = true ∧ report ∈ queue i x.2.2.state ↔ starts ∧ ¬ goesOn)) ∧
    ∀ r ended, r.buffer.length ≠ 0 →
      let x := h.readSlice (platformWith (shows time)) r w
      x.1 = .error ended → ended.isNothing = true →
      (withContent (queue i x.2.2.state) ≠ [] ↔
        ∃ rest, queue i w.state = [] :: rest ∧ withContent rest ≠ []) := by
  refine ⟨fun slices length timeout k report rest hq hr hk => ?_,
    fun r ended hb he hn => readSlice_misses_iff hb hl ha he hn⟩
  intro x starts goesOn
  have hstarts : starts ↔ length ≠ 0 ∧ Handle.readCrash? length timeout (time w.now) = none := by
    rw [Handle.readCrash?_eq_none_iff]
    exact and_congr_right' and_comm
  obtain ⟨ended, hs, hrefusal⟩ | ⟨hs, hstart⟩ := h.startRead_cases length timeout (time w.now)
  · have hx : x = (ended, h, (shows time w).2) := Handle.read_of_refused _ (shows time) hs
    have hstart : ¬ starts := fun hstart => by
      obtain ⟨hz, hcrash⟩ := hstarts.mp hstart
      simp [Handle.startRead_of_open hz (Handle.live?_eq_some.mp hl).1, hcrash] at hs
    have hdata : ended ≠ .returned (.ok (.data (report.take length))) := by
      cases hrefusal <;> simp
    simp [hx, hstart, isNothing_of_refusal hrefusal, hdata]
  · have hx : x = h.readSlices (platformWith (shows time)) slices
        (h.reading length (timeout.bind (time w.now).after?)) (shows time w).2 :=
      Handle.read_of_started _ (shows time) hs
    have hstart : starts := hstarts.mpr hstart
    have hbuffer : (h.reading length (timeout.bind (time w.now).after?)).buffer.length = length :=
      List.length_replicate
    have hp := readSlices_pending time (w := (shows time w).2)
      (r := h.reading length (timeout.bind (time w.now).after?)) (by rw [hbuffer]; exact hstart.1)
      hl hr hk ha hq
    rw [hbuffer, ← hx] at hp
    obtain ⟨hgoes, hdata⟩ | ⟨hgoes, hnothing, hmem⟩ := hp
    · have hgoes : goesOn := hgoes
      simp [hdata, hstart, hgoes, ReadEnd.isNothing]
    · have hgoes : ¬ goesOn := hgoes
      have hdata : x.1 ≠ .returned (.ok (.data (report.take length))) := fun h => by
        simp [h, ReadEnd.isNothing] at hnothing
      simp [hdata, hstart, hgoes, hnothing, hmem]

def mixedBus : Clocked VirtualBus where
  state := { devices := [{
    path := "virtual:0", spec := { vendorId := 1, productId := 2 }, openHandles := 1
    input := [[], [1]] }] }

def mixedReader (blocking : Bool) : Handle Nat :=
  { Handle.opened "virtual:0" 0 (Duration.millis 20) with blocking }

theorem blocking_read_goes_on :
    (mixedReader true).live? = some 0 ∧ isAttached 0 mixedBus.state = true ∧
      ((mixedReader true).read (platformWith (shows id)) 2 8 none mixedBus).1 =
        .returned (.ok (.data [1])) :=
  ⟨rfl, rfl, ((nothing_pending_iff id (h := mixedReader true) (w := mixedBus) rfl rfl).1 2 8 none 1
    [1] [] rfl (by decide) (by decide)).1.mpr
      ⟨⟨by decide, by decide, nofun⟩, .inr ⟨rfl, fun _ _ => rfl⟩⟩⟩

theorem nonblocking_read_misses :
    (mixedReader false).live? = some 0 ∧ isAttached 0 mixedBus.state = true ∧
      queue 0 mixedBus.state = [[], [1]] ∧
      ((mixedReader false).read platform 1 8 none mixedBus).1 = .returned (.ok .wouldBlock) ∧
      queue 0 ((mixedReader false).read platform 1 8 none mixedBus).2.2.state = [[1]] :=
  ⟨rfl, rfl, rfl, rfl, rfl⟩

end VirtualBus

end HidAccess
