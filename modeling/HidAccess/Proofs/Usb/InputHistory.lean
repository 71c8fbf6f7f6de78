import HidAccess.Usb.Backend

/-! What becomes of the reports that a reader receives. Received reports are numbered in the order of
their arrival. A queue holds the last ones; in front of them are the ones that reads were handed and
the ones that made room. The reader ends with its device, and then nothing arrives any more. -/

namespace HidAccess

namespace InputQueue

inductive Event where
  | transfer (outcome : Except UsbError Bytes)
  | read (buffer : Bytes)

structure Handed where
  number : Nat
  buffer : Bytes
  received : Received

structure History where
  queue : InputQueue := {}
  received : List Bytes := []
  handed : List Handed := []

def Event.isLoss : Event → Bool
  | .transfer (.error .noDevice) => true
  | _ => false

theorem Event.isLoss_iff {e : Event} : e.isLoss = true ↔ e = .transfer (.error .noDevice) := by
  obtain (_ | _) | _ := e
  · rename_i e
    cases e <;> simp [isLoss]
  · simp [isLoss]
  · simp [isLoss]

def Event.buffer? : Event → Option Bytes
  | .read buffer => some buffer
  | _ => none

def brought? : Except AccessError (Option Received) → Option Received
  | .ok received => received
  | .error _ => none

namespace History

/-- The number of the report that is next to leave the queue. -/
def front (s : History) : Nat := s.received.length - s.queue.reports.length

def transfer (s : History) (outcome : Except UsbError Bytes) : History :=
  if s.queue.disconnected then s
  else { s with
    queue := s.queue.complete outcome
    received := s.received ++ outcome.toOption.toList }

def handing (s : History) (buffer : Bytes) : Except AccessError (Option Received) → List Handed
  | .ok (some received) => s.handed ++ [⟨s.front, buffer, received⟩]
  | _ => s.handed

def read (s : History) (buffer : Bytes) : Except AccessError (Option Received) × History :=
  let (answer, queue) := s.queue.take buffer
  (answer, { s with queue, handed := s.handing buffer answer })

def step (s : History) : Event → Option (Except AccessError (Option Received)) × History
  | .transfer outcome => (none, s.transfer outcome)
  | .read buffer => Prod.map some id (s.read buffer)

def run (s : History) : List Event → List (Except AccessError (Option Received)) × History
  | [] => ([], s)
  | e :: es =>
    let (answer, s) := s.step e
    let (answers, s) := s.run es
    (answer.toList ++ answers, s)

theorem run_append (s : History) (es es' : List Event) :
    s.run (es ++ es') = ((s.run es).1 ++ ((s.run es).2.run es').1, ((s.run es).2.run es').2) := by
  induction es generalizing s with
  | nil => rfl
  | cons e es ih => simp [run, ih]

inductive Step (s : History) : Option (Except AccessError (Option Received)) → History → Prop
  | unchanged : Step s none s
  | arrived (report : Bytes) : s.queue.disconnected = false →
    s.queue.reports.length < capacity →
    Step s none { s with
      queue := { s.queue with reports := s.queue.reports ++ [report] }
      received := s.received ++ [report] }
  | overflowed (report oldest : Bytes) (rest : List Bytes) : s.queue.disconnected = false →
    capacity ≤ s.queue.reports.length → s.queue.reports = oldest :: rest →
    Step s none { s with
      queue := { s.queue with reports := rest ++ [report] }
      received := s.received ++ [report] }
  | lost : s.queue.disconnected = false →
    Step s none { s with queue := { s.queue with disconnected := true } }
  | handed (buffer report : Bytes) (rest : List Bytes) : s.queue.reports = report :: rest →
    Step s (some (.ok (some (.fill buffer report)))) { s with
      queue := { s.queue with reports := rest }
      handed := s.handed ++ [⟨s.front, buffer, .fill buffer report⟩] }
  | nothing : s.queue.reports = [] →
    Step s (some (if s.queue.disconnected then .error InputQueue.lost else .ok none)) s

theorem step_cases (s : History) (e : Event) : s.Step (s.step e).1 (s.step e).2 := by
  cases e with
  | transfer outcome =>
    simp only [step, transfer]
    cases hd : s.queue.disconnected with
    | true => exact .unchanged
    | false =>
      obtain e | report := outcome
      · cases e with
        | noDevice => simpa [complete, Except.toOption] using Step.lost hd
        | _ => simpa [complete, Except.toOption] using Step.unchanged
      · simp only [Bool.false_eq_true, if_false, complete, push, Except.toOption, Option.toList_some]
        by_cases hfull : capacity ≤ s.queue.reports.length
        · obtain ⟨oldest, rest, hr⟩ := List.exists_cons_of_length_pos (l := s.queue.reports)
            (Nat.lt_of_lt_of_le (by decide) hfull)
          rw [if_pos hfull, show s.queue.reports.drop 1 = rest by rw [hr]; rfl]
          exact .overflowed report oldest rest hd hfull hr
        · simpa [hfull] using Step.arrived report hd (by omega)
  | read buffer =>
    simp only [step, read, take]
    cases hr : s.queue.reports with
    | nil =>
      cases hd : s.queue.disconnected <;> simpa [handing, hd] using Step.nothing hr
    | cons report rest => simpa [handing] using Step.handed buffer report rest hr

/-- The queue is the end of what arrived, and all that was handed out had left it, in order. -/
structure Regular (s : History) : Prop where
  bounded : s.queue.reports.length ≤ capacity
  ends : s.queue.reports <:+ s.received
  ordered : s.handed.Pairwise (·.number < ·.number)
  left : ∀ h ∈ s.handed, h.number < s.front
  brought : ∀ h ∈ s.handed, ∃ report,
    s.received[h.number]? = some report ∧ h.received = .fill h.buffer report

variable {s s' : History} {answer : Option (Except AccessError (Option Received))} {i : Nat}

theorem front_of_append {gone : List Bytes} (hg : gone ++ s.queue.reports = s.received) :
    s.front = gone.length := by
  rw [front, ← hg, List.length_append, Nat.add_sub_cancel]

theorem Regular.front_add (hr : s.Regular) :
    s.front + s.queue.reports.length = s.received.length :=
  Nat.sub_add_cancel hr.ends.length_le

namespace Regular

theorem initial : Regular {} where
  bounded := Nat.zero_le _
  ends := List.nil_suffix
  ordered := .nil
  left := by simp
  brought := by simp

theorem arrived (hr : s.Regular) {queue : InputQueue} {report : Bytes}
    (hb : queue.reports.length ≤ capacity) (he : queue.reports <:+ s.received ++ [report])
    (hq : queue.reports.length ≤ s.queue.reports.length + 1) :
    Regular { s with queue, received := s.received ++ [report] } := by
  have hfront : s.front ≤ front { s with queue, received := s.received ++ [report] } := by
    have := hr.front_add
    simp only [front, List.length_append, List.length_singleton] at this ⊢
    omega
  constructor
  case bounded => exact hb
  case ends => exact he
  case ordered => exact hr.ordered
  case left =>
    intro h hm
    exact Nat.lt_of_lt_of_le (hr.left h hm) hfront
  case brought =>
    intro h hm
    obtain ⟨r, hnumber, hx⟩ := hr.brought h hm
    have hlt := (List.getElem?_eq_some_iff.mp hnumber).1
    exact ⟨r, List.getElem?_append_left hlt ▸ hnumber, hx⟩

theorem handed (hr : s.Regular) {report : Bytes} {rest : List Bytes}
    (hq : s.queue.reports = report :: rest) (buffer : Bytes) :
    Regular { s with
      queue := { s.queue with reports := rest }
      handed := s.handed ++ [⟨s.front, buffer, .fill buffer report⟩] } := by
  have hadd := hr.front_add
  rw [hq, List.length_cons] at hadd
  have hfront : front { s with
      queue := { s.queue with reports := rest }
      handed := s.handed ++ [⟨s.front, buffer, .fill buffer report⟩] } = s.front + 1 := by
    simp only [front] at hadd ⊢
    omega
  constructor
  case bounded =>
    have hb := hr.bounded
    rw [hq, List.length_cons] at hb
    exact Nat.le_of_succ_le hb
  case ends =>
    have hs := hr.ends
    rw [hq] at hs
    exact (List.suffix_cons report rest).trans hs
  case ordered =>
    refine List.pairwise_append.mpr ⟨hr.ordered, List.pairwise_singleton _ _, ?_⟩
    intro h hm h' hm'
    rw [List.mem_singleton.mp hm']
    exact hr.left h hm
  case left =>
    intro h hm
    rw [hfront]
    obtain hm | hm := List.mem_append.mp hm
    · exact Nat.lt_succ_of_lt (hr.left h hm)
    · rw [List.mem_singleton.mp hm]
      exact Nat.lt_succ_self _
  case brought =>
    intro h hm
    obtain hm | hm := List.mem_append.mp hm
    · exact hr.brought h hm
    · rw [List.mem_singleton.mp hm]
      refine ⟨report, ?_, rfl⟩
      obtain ⟨gone, hg⟩ := hr.ends
      rw [front_of_append hg, ← hg, hq]
      simp

theorem next (hr : s.Regular) (hs : s.Step answer s') : s'.Regular := by
  cases hs with
  | unchanged => exact hr
  | arrived report _ hlt =>
    obtain ⟨gone, hg⟩ := hr.ends
    refine hr.arrived ?_ ⟨gone, ?_⟩ ?_
    · simpa using Nat.succ_le_of_lt hlt
    · simp [← hg]
    · simp
  | overflowed report oldest rest _ _ hq =>
    obtain ⟨gone, hg⟩ := hr.ends
    have hb := hr.bounded
    rw [hq, List.length_cons] at hb
    refine hr.arrived ?_ ⟨gone ++ [oldest], ?_⟩ ?_
    · simpa using hb
    · simp [← hg, hq]
    · simp [hq]
  | lost => exact ⟨hr.bounded, hr.ends, hr.ordered, hr.left, hr.brought⟩
  | handed buffer report rest hq => exact hr.handed hq buffer
  | nothing => exact hr

theorem run (hr : s.Regular) (es : List Event) : (s.run es).2.Regular := by
  induction es generalizing s with
  | nil => exact hr
  | cons e es ih => exact ih (hr.next (s.step_cases e))

end Regular

def IsHanded (i : Nat) (s : History) : Prop := ∃ h ∈ s.handed, h.number = i

/-- A report has left the queue, but no read was handed it. -/
def Missed (i : Nat) (s : History) : Prop := i < s.front ∧ ¬ s.IsHanded i

/-- As many reports as the queue can hold arrived after this one, before a read was handed it. -/
def Overtaken (i : Nat) (s : History) : Prop := i + capacity < s.received.length ∧ ¬ s.IsHanded i

theorem Overtaken.missed (hr : s.Regular) (ho : s.Overtaken i) : s.Missed i := by
  have := hr.front_add
  have := hr.bounded
  exact ⟨by have := ho.1; omega, ho.2⟩

theorem Missed.next (hr : s.Regular) (hm : s.Missed i) (hs : s.Step answer s') : s'.Missed i := by
  have hadd := hr.front_add
  have hi := hm.1
  cases hs with
  | unchanged => exact hm
  | arrived report _ _ =>
    refine ⟨?_, hm.2⟩
    simp only [front, List.length_append, List.length_singleton] at hi hadd ⊢
    omega
  | overflowed report oldest rest _ _ hq =>
    refine ⟨?_, hm.2⟩
    simp only [front, hq, List.length_append, List.length_cons, List.length_nil] at hi hadd ⊢
    omega
  | lost => exact hm
  | handed buffer report rest hq =>
    refine ⟨?_, ?_⟩
    · simp only [front, hq, List.length_cons] at hi hadd ⊢
      omega
    · rintro ⟨h, hmem, rfl⟩
      obtain hmem | hmem := List.mem_append.mp hmem
      · exact hm.2 ⟨h, hmem, rfl⟩
      · rw [List.mem_singleton.mp hmem] at hi
        exact Nat.lt_irrefl _ hi
  | nothing => exact hm

theorem Missed.run (hr : s.Regular) (hm : s.Missed i) (es : List Event) :
    (s.run es).2.Missed i := by
  induction es generalizing s with
  | nil => exact hm
  | cons e es ih => exact ih (hr.next (s.step_cases e)) (hm.next hr (s.step_cases e))

/-- Only a report that is pushed out becomes missed, and then the queue is full behind it. -/
theorem missed_next (hr : s.Regular) (hs : s.Step answer s') (hm : s'.Missed i) :
    s.Missed i ∨ s'.Overtaken i := by
  have hadd := hr.front_add
  have hi := hm.1
  cases hs with
  | unchanged => exact .inl hm
  | arrived report _ _ =>
    refine .inl ⟨?_, hm.2⟩
    simp only [front, List.length_append, List.length_singleton] at hi ⊢
    omega
  | overflowed report oldest rest _ hfull hq =>
    by_cases h : i < s.front
    · exact .inl ⟨h, hm.2⟩
    · refine .inr ⟨?_, hm.2⟩
      simp only [front, hq, List.length_append, List.length_cons, List.length_nil] at hi h hfull ⊢
      omega
  | lost => exact .inl hm
  | handed buffer report rest hq =>
    have hnot : ¬ s.IsHanded i := fun ⟨h, hmem, hx⟩ =>
      hm.2 ⟨h, List.mem_append_left _ hmem, hx⟩
    have hne : s.front ≠ i := fun hx =>
      hm.2 ⟨_, List.mem_append_right _ (List.mem_singleton.mpr rfl), hx⟩
    refine .inl ⟨?_, hnot⟩
    simp only [front, hq, List.length_cons] at hi hadd hne ⊢
    omega
  | nothing => exact .inl hm

theorem missed_run (hr : s.Regular) (es : List Event) :
    (s.run es).2.Missed i ↔
      s.Missed i ∨ ∃ before, before <+: es ∧ (s.run before).2.Overtaken i := by
  constructor
  · intro hm
    induction es generalizing s with
    | nil => exact .inl hm
    | cons e es ih =>
      have hs := s.step_cases e
      obtain hm | ⟨before, hp, ho⟩ := ih (hr.next hs) hm
      · obtain hm | ho := missed_next hr hs hm
        · exact .inl hm
        · exact .inr ⟨[e], by simp, ho⟩
      · exact .inr ⟨e :: before, List.cons_prefix_cons.mpr ⟨rfl, hp⟩, ho⟩
  · rintro (hm | ⟨before, ⟨after, rfl⟩, ho⟩)
    · exact hm.run hr es
    · rw [run_append]
      exact (ho.missed (hr.run before)).run (hr.run before) after

theorem handed_run (s : History) (es : List Event) :
    (s.run es).2.handed.map (·.received) =
      s.handed.map (·.received) ++ (s.run es).1.filterMap brought? := by
  induction es generalizing s with
  | nil => simp [run]
  | cons e es ih =>
    have hs := s.step_cases e
    simp only [run, ih]
    generalize (s.step e).1 = answer, (s.step e).2 = s' at hs ⊢
    cases hs with
    | handed buffer report rest hq => simp [brought?]
    | nothing hq =>
      have hb (gone : Bool) : brought? (if gone then .error lost else .ok none) = none := by
        cases gone <;> rfl
      simp [hb]
    | _ => simp

theorem disconnected_run (s : History) (es : List Event) :
    (s.run es).2.queue.disconnected = (s.queue.disconnected || es.any Event.isLoss) := by
  induction es generalizing s with
  | nil => simp [run]
  | cons e es ih =>
    have hstep : (s.step e).2.queue.disconnected = (s.queue.disconnected || e.isLoss) := by
      cases e with
      | read buffer =>
        simp only [step, read, take]
        split <;> simp [Event.isLoss]
      | transfer outcome =>
        simp only [step, transfer]
        cases hd : s.queue.disconnected with
        | true => simp [hd]
        | false =>
          obtain e | report := outcome
          · cases e <;> simp [complete, hd, Event.isLoss]
          · simp [complete, push, hd, Event.isLoss]
    rw [run, ih, hstep, List.any_cons, Bool.or_assoc]

theorem run_of_disconnected (hd : s.queue.disconnected = true) (es : List Event) :
    (s.run es).1 =
      List.zipWith (fun report buffer => .ok (some (.fill buffer report))) s.queue.reports
        (es.filterMap Event.buffer?) ++
      List.replicate ((es.filterMap Event.buffer?).length - s.queue.reports.length)
        (.error lost) := by
  induction es generalizing s with
  | nil => simp [run]
  | cons e es ih =>
    cases e with
    | transfer outcome =>
      have hs : s.transfer outcome = s := by simp [transfer, hd]
      have hb : (Event.transfer outcome).buffer? = none := rfl
      simp [run, step, hs, ih hd, hb]
    | read buffer =>
      simp only [run, step, read, take]
      cases hq : s.queue.reports with
      | nil =>
        have hs : { s with queue := s.queue, handed := s.handing buffer (.error lost) } = s := rfl
        simp [hd, ih, Event.buffer?, hq, List.replicate_succ, handing]
      | cons report rest => simp [ih, hd, Event.buffer?]

end History

end InputQueue

namespace UsbBus
open InputQueue

def isFor (r : UsbReader) (item : UsbFed) : Bool := item.endpoint == r.endpoint

def transfers (r : UsbReader) (fed : List UsbFed) : List Event :=
  (fed.filter (isFor r)).map fun item => .transfer (received r.size item)

theorem drain_queue (r : UsbReader) (fed : List UsbFed) {s : History} (hq : s.queue = r.queue) :
    (drain r fed).1.queue = (s.run (transfers r fed)).2.queue := by
  induction fed generalizing r s with
  | nil => exact hq.symm
  | cons item rest ih =>
    cases hitem : isFor r item with
    | false =>
      have ht : transfers r (item :: rest) = transfers r rest := by simp [transfers, hitem]
      have hd : (drain r (item :: rest)).1 = (drain r rest).1 := by
        simp [drain, show (item.endpoint == r.endpoint) = false from hitem]
      rw [ht, hd, ih r hq]
    | true =>
      have ht : transfers r (item :: rest) =
          .transfer (received r.size item) :: transfers r rest := by simp [transfers, hitem]
      rw [ht, History.run]
      cases hgone : r.queue.disconnected with
      | true =>
        have hd : (drain r (item :: rest)).1 = (drain r rest).1 := by simp [drain, hgone]
        have hs : s.transfer (received r.size item) = s := by simp [History.transfer, hq, hgone]
        simpa only [History.step, hs, hd] using ih r hq
      | false =>
        have hd : drain r (item :: rest) =
            drain { r with queue := r.queue.complete (received r.size item) } rest := by
          simp [drain, hgone, show (item.endpoint == r.endpoint) = true from hitem]
        have hs : (s.transfer (received r.size item)).queue =
            r.queue.complete (received r.size item) := by
          simp [History.transfer, hq, hgone]
        rw [hd]
        exact ih _ hs

theorem settleReader_queue {r : UsbReader} {bus : UsbBus} {d : UsbDevice}
    (hd : bus.devices[r.device]? = some d) :
    (settleReader r bus).1.queue =
      (History.run { queue := r.queue } (transfers r d.fed ++
        if d.attached then [] else [.transfer (.error .noDevice)])).2.queue := by
  have hq := drain_queue r d.fed (s := { queue := r.queue }) rfl
  rw [History.run_append]
  simp only [settleReader, hd]
  cases d.attached with
  | true => exact hq
  | false =>
    generalize (History.run { queue := r.queue } (transfers r d.fed)).2 = s at hq
    cases hgone : s.queue.disconnected with
    | true =>
      have hsame : { s.queue with disconnected := true } = s.queue := by rw [← hgone]
      simpa [complete, History.run, History.step, History.transfer, hq, hgone] using hsame
    | false => simp [complete, History.run, History.step, History.transfer, hq, hgone]

theorem readLink_queue {l : UsbLink} {bus : UsbBus} {r : UsbReader}
    (hr : bus.reader? l.handle = some r) (buffer : Bytes) (patience : Duration) :
    let (answer, s) := History.read { queue := r.queue } buffer
    (readLink l buffer patience bus).1 = answer.map (fun received =>
      received.elim (.nothing patience) .now) ∧
    ((readLink l buffer patience bus).2.reader? l.handle).map (·.queue) = some s.queue := by
  have hset (queue : InputQueue) :
      ((bus.setQueue l.handle queue).reader? l.handle).map (·.queue) = some queue := by
    have hfind : bus.readers.find? (fun r => r.handle == l.handle) = some r := hr
    have hhandle : (r.handle == l.handle) = true :=
      List.find?_some (p := fun r : UsbReader => r.handle == l.handle) hfind
    have hsame : ((fun r : UsbReader => r.handle == l.handle) ∘
        fun r => if r.handle == l.handle then { r with queue } else r) =
        fun r => r.handle == l.handle := by
      funext r
      simp only [Function.comp_apply]
      split <;> rfl
    simp only [reader?, setQueue, List.find?_map, hsame, hfind, Option.map_some, hhandle, if_true]
  simp only [readLink, hr, History.read, InputQueue.take]
  cases r.queue.reports with
  | nil => cases hd : r.queue.disconnected <;> simp [hr, Except.map]
  | cons report rest => simp [hset, Except.map]

end UsbBus

namespace InputQueue

theorem complete_error {e : UsbError} (he : e ≠ .noDevice) (q : InputQueue) :
    q.complete (.error e) = q := by
  cases e <;> first | rfl | exact absurd rfl he

/-- A reader and any reads, in any order. The queue holds the last reports that arrived, 30 at the
most. Reads are handed reports in the order of their arrival, each of them once and cut to the
buffer. A report is missed exactly if 30 others arrived after it and before it was handed out. Only
the loss of the device ends the reader; the reads that come then are handed all that is queued
before one of them fails. -/
theorem input_queue_history (es : List Event) :
    let (answers, s) := History.run {} es
    (s.queue.reports.length ≤ 30 ∧ s.queue.reports <:+ s.received) ∧
    (answers.filterMap brought? = s.handed.map (·.received) ∧
      s.handed.Pairwise (·.number < ·.number) ∧
      ∀ h ∈ s.handed, ∃ report, s.received[h.number]? = some report ∧
        h.received.count = min report.length h.buffer.length ∧
        h.received.report = report.take h.buffer.length) ∧
    (∀ i, i < s.received.length - s.queue.reports.length ∧ (∀ h ∈ s.handed, h.number ≠ i) ↔
      ∃ before, before <+: es ∧ let p := (History.run {} before).2
        i + 30 < p.received.length ∧ ∀ h ∈ p.handed, h.number ≠ i) ∧
    (s.queue.disconnected = true ↔ .transfer (.error .noDevice) ∈ es) ∧
    (∀ e, e ≠ .noDevice → s.transfer (.error e) = s) ∧
    (s.transfer (.error .noDevice)).queue.reports = s.queue.reports ∧
    (∀ buffer e, (s.read buffer).1 = .error e →
      s.queue.disconnected = true ∧ s.queue.reports = []) ∧
    (s.queue.disconnected = true → ∀ later, let buffers := later.filterMap Event.buffer?
      (s.run later).1 =
        List.zipWith (fun report buffer => .ok (some (.fill buffer report))) s.queue.reports
          buffers ++
        List.replicate (buffers.length - s.queue.reports.length) (.error lost)) := by
  have hr : (History.run {} es).2.Regular := History.Regular.initial.run es
  have hmissed := fun i => History.missed_run (i := i) History.Regular.initial es
  have hhanded := History.handed_run {} es
  have hlost := History.disconnected_run {} es
  generalize hx : History.run {} es = x at hr hmissed hhanded hlost
  obtain ⟨answers, s⟩ := x
  simp only at hr hmissed hhanded hlost ⊢
  refine ⟨⟨hr.bounded, hr.ends⟩, ⟨hhanded.symm, hr.ordered, ?handed⟩, ?missed, ?loss, ?errors,
    ?kept, ?failing, fun hd later => History.run_of_disconnected hd later⟩
  case handed =>
    intro h hm
    obtain ⟨report, hnumber, hfill⟩ := hr.brought h hm
    refine ⟨report, hnumber, ?_⟩
    rw [hfill]
    exact ⟨rfl, Received.report_fill _ _⟩
  case missed =>
    intro i
    have hfresh : ¬ History.Missed i {} := fun hm => Nat.not_lt_zero i hm.1
    simpa [hfresh, History.Missed, History.Overtaken, History.IsHanded, History.front,
      InputQueue.capacity] using hmissed i
  case loss => simp [hlost, Event.isLoss_iff]
  case errors =>
    intro e he
    simp [History.transfer, complete_error he, Except.toOption]
  case kept =>
    simp only [History.transfer]
    split <;> rfl
  case failing =>
    intro buffer e he
    simp only [History.read, take] at he
    split at he
    next => cases he
    next hnil =>
      split at he
      next hd => exact ⟨hd, hnil⟩
      next => cases he

end InputQueue

end HidAccess
