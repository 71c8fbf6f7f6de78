import HidAccess.Proofs.Handle.Operation

/-! The device reads that a read is made of. A read that does not block makes one; one that blocks makes
them until one brings something or the deadline is reached, each no longer than the handle's interval
and the time that is left. Whatever is done to the mode in the meantime has no effect on it. -/

namespace HidAccess.Handle
variable {D : Type}

/-- What a read meets: what the clock shows at each look, what each device read gives back, and the mode
that others leave the handle in before it. -/
structure Circumstances where
  time : Nat → Instant
  slice : Nat → Received
  mode : Nat → Bool

structure SliceLog where
  looks : Nat := 0
  patiences : List Duration := []

namespace Circumstances

def platform (s : Circumstances) (c : DeviceCalls SliceLog D Received) : Platform SliceLog D where
  toDeviceCalls := { c with
    read := fun _ _ patience l =>
      (.ok (s.slice l.patiences.length), { l with patiences := l.patiences ++ [patience] }) }
  now l := (s.time l.looks, { l with looks := l.looks + 1 })
  meanwhile h l := (h, l)
  acquire h l := ({ h with blocking := s.mode l.patiences.length }, l)

def patience (s : Circumstances) (deadline : Option Instant) (interval : Duration) (k : Nat) : Duration :=
  deadline.elim interval fun t => min (t - s.time (2 * k + 1)) interval

def GoesOn (s : Circumstances) (deadline : Option Instant) (k : Nat) : Prop :=
  ∀ j < k, (s.slice j).count = 0 ∧ ∀ t ∈ deadline, s.time (2 * j + 2) < t

/-- How a blocking read ends that may make so many device reads, and after how many of them. -/
inductive Ends (s : Circumstances) (deadline : Option Instant) (slices : Nat) : Nat → ReadEnd → Prop
  | data {k : Nat} : k < slices → s.GoesOn deadline k → 0 < (s.slice k).count →
      Ends s deadline slices (k + 1) (.returned (.ok (.data (s.slice k).report)))
  | timedOut {k : Nat} {t : Instant} : k < slices → s.GoesOn deadline k → (s.slice k).count = 0 →
      t ∈ deadline → t ≤ s.time (2 * k + 2) →
      Ends s deadline slices (k + 1) (.returned (.ok .timedOut))
  | waiting : s.GoesOn deadline slices → Ends s deadline slices slices .waiting

variable {s : Circumstances} {c : DeviceCalls SliceLog D Received} {h : Handle D} {d : D} {r : Reading}
  {l : SliceLog} {deadline : Option Instant} {interval : Duration} {k slices : Nat}

theorem goesOn_succ : s.GoesOn deadline (k + 1) ↔ s.GoesOn deadline k ∧
    (s.slice k).count = 0 ∧ ∀ t ∈ deadline, s.time (2 * k + 2) < t :=
  Nat.forall_lt_succ_right

variable (s deadline) in
def Stops (k : Nat) : Prop := 0 < (s.slice k).count ∨ ∃ t ∈ deadline, t ≤ s.time (2 * k + 2)

theorem GoesOn.le_of_stops {j : Nat} (hg : s.GoesOn deadline j) (hk : s.Stops deadline k) : j ≤ k := by
  refine Nat.le_of_not_lt fun hlt => ?_
  obtain ⟨hcount, hbefore⟩ := hg k hlt
  obtain hdata | ⟨t, ht, hreached⟩ := hk
  · exact absurd hcount (Nat.ne_of_gt hdata)
  · exact absurd (hbefore t ht) (Nat.not_lt.mpr hreached)

theorem GoesOn.eq_of_stops {j : Nat} (hj : s.GoesOn deadline j) (hk : s.GoesOn deadline k)
    (hjs : s.Stops deadline j) (hks : s.Stops deadline k) : j = k :=
  Nat.le_antisymm (hj.le_of_stops hks) (hk.le_of_stops hjs)

theorem Ends.unique {m m' : Nat} {e e' : ReadEnd} (he : s.Ends deadline slices m e)
    (he' : s.Ends deadline slices m' e') : m = m' ∧ e = e' := by
  cases he with
  | data hk hg hdata =>
    cases he' with
    | data hk' hg' hdata' =>
      obtain rfl := hg.eq_of_stops hg' (.inl hdata) (.inl hdata')
      exact ⟨rfl, rfl⟩
    | timedOut hk' hg' hcount' ht' hpast' =>
      obtain rfl := hg.eq_of_stops hg' (.inl hdata) (.inr ⟨_, ht', hpast'⟩)
      exact absurd hcount' (Nat.ne_of_gt hdata)
    | waiting hg' => exact absurd (hg'.le_of_stops (.inl hdata)) (Nat.not_le.mpr hk)
  | timedOut hk hg hcount ht hpast =>
    cases he' with
    | data hk' hg' hdata' =>
      obtain rfl := hg.eq_of_stops hg' (.inr ⟨_, ht, hpast⟩) (.inl hdata')
      exact absurd hcount (Nat.ne_of_gt hdata')
    | timedOut hk' hg' hcount' ht' hpast' =>
      obtain rfl := hg.eq_of_stops hg' (.inr ⟨_, ht, hpast⟩) (.inr ⟨_, ht', hpast'⟩)
      exact ⟨rfl, rfl⟩
    | waiting hg' => exact absurd (hg'.le_of_stops (.inr ⟨_, ht, hpast⟩)) (Nat.not_le.mpr hk)
  | waiting hg =>
    cases he' with
    | data hk' hg' hdata' => exact absurd (hg.le_of_stops (.inl hdata')) (Nat.not_le.mpr hk')
    | timedOut hk' hg' hcount' ht' hpast' =>
      exact absurd (hg.le_of_stops (.inr ⟨_, ht', hpast'⟩)) (Nat.not_le.mpr hk')
    | waiting hg' => exact ⟨rfl, rfl⟩

theorem readSlice_eq (hl : h.live? = some d) (l : SliceLog) :
    h.readSlice (s.platform c) r l =
      (r.after (s.slice l.patiences.length) (s.time (l.looks + 1)),
        { h with blocking := s.mode l.patiences.length },
        ⟨l.looks + 2, l.patiences ++ [r.slice h.interval (s.time l.looks)]⟩) := by
  obtain ⟨hc, hd⟩ := live?_eq_some.mp hl
  simp [readSlice, platform, withDevice, hc, hd]

theorem after_data (hcount : 0 < (s.slice k).count) (now : Instant) :
    r.after (s.slice k) now = .error (.returned (.ok (.data (s.slice k).report))) := by
  simp [Reading.after, Reading.outcome?, hcount]

structure Underway (s : Circumstances) (deadline : Option Instant) (interval : Duration) (d : D) (k : Nat)
    (r : Reading) (h : Handle D) (l : SliceLog) : Prop where
  blocks : r.blocking = true
  due : r.deadline = deadline
  live : h.live? = some d
  bound : h.interval = interval
  looks_eq : l.looks = 2 * k + 1
  patiences_eq : l.patiences = (List.range k).map (s.patience deadline interval)

namespace Underway
variable (hu : s.Underway deadline interval d k r h l)
include hu

theorem slice_eq : r.slice h.interval (s.time l.looks) = s.patience deadline interval k := by
  rw [Reading.slice, hu.blocks, hu.due, hu.bound, hu.looks_eq]
  cases deadline <;> rfl

theorem readSlice : h.readSlice (s.platform c) r l =
    (r.after (s.slice k) (s.time (2 * k + 2)), { h with blocking := s.mode k },
      ⟨2 * (k + 1) + 1, (List.range (k + 1)).map (s.patience deadline interval)⟩) := by
  have hlen : l.patiences.length = k := by simp [hu.patiences_eq]
  rw [readSlice_eq hu.live, hu.slice_eq, hlen, hu.looks_eq, hu.patiences_eq, List.range_succ, List.map_append]
  rfl

theorem after_past (hcount : (s.slice k).count = 0) {t now : Instant} (ht : t ∈ deadline)
    (hpast : t ≤ now) : r.after (s.slice k) now = .error (.returned (.ok .timedOut)) := by
  have hd : r.deadline = some t := hu.due.trans ht
  simp [Reading.after, Reading.outcome?, hcount, hu.blocks, Reading.isPast, hd, hpast]

theorem after_nothing (hcount : (s.slice k).count = 0) {now : Instant}
    (hbefore : ∀ t ∈ deadline, now < t) :
    r.after (s.slice k) now = .ok { r with buffer := (s.slice k).buffer } := by
  have hpast : r.isPast now = false := by
    rw [Reading.isPast, hu.due]
    cases deadline with
    | none => rfl
    | some t => simpa using hbefore t rfl
  simp [Reading.after, Reading.outcome?, hcount, hu.blocks, hpast]

end Underway

/-- The rest of a read that is under way, with so many device reads left. -/
theorem readSlices_ends {n : Nat} (hu : s.Underway deadline interval d k r h l)
    (hg : s.GoesOn deadline k) (hn : k + n = slices) :
    ∃ m e, s.Ends deadline slices m e ∧ (h.readSlices (s.platform c) n r l).1 = e ∧
      (h.readSlices (s.platform c) n r l).2.2.patiences =
        (List.range m).map (s.patience deadline interval) := by
  induction n generalizing k r h l with
  | zero =>
    obtain rfl : k = slices := hn
    exact ⟨k, .waiting, .waiting hg, rfl, hu.patiences_eq⟩
  | succ n ih =>
    have hk : k < slices := by omega
    have hstep := hu.readSlice (c := c)
    by_cases hdata : 0 < (s.slice k).count
    · rw [after_data hdata] at hstep
      exact ⟨k + 1, _, .data hk hg hdata, by simp only [readSlices, hstep], by simp only [readSlices, hstep]⟩
    have hcount : (s.slice k).count = 0 := Nat.eq_zero_of_not_pos hdata
    by_cases hpast : ∃ t ∈ deadline, t ≤ s.time (2 * k + 2)
    · obtain ⟨t, ht, hpast⟩ := hpast
      rw [hu.after_past hcount ht hpast] at hstep
      exact ⟨k + 1, _, .timedOut hk hg hcount ht hpast, by simp only [readSlices, hstep],
        by simp only [readSlices, hstep]⟩
    · have hbefore : ∀ t ∈ deadline, s.time (2 * k + 2) < t := by simpa using hpast
      rw [hu.after_nothing hcount hbefore] at hstep
      simp only [readSlices, hstep]
      refine ih ?_ (goesOn_succ.mpr ⟨hg, hcount, hbefore⟩) (by omega)
      exact ⟨hu.blocks, hu.due, hu.live, hu.bound, rfl, rfl⟩

variable {length : Nat} {timeout : Option Duration}

theorem read_of_starts (slices : Nat) (hl : h.live? = some d) (hlength : length ≠ 0)
    (hstart : readCrash? length timeout (s.time 0) = none) :
    h.read (s.platform c) slices length timeout {} =
      h.readSlices (s.platform c) slices (h.reading length (timeout.map (s.time 0 + ·))) ⟨1, []⟩ := by
  have hs := startRead_of_open hlength (live?_eq_some.mp hl).1 timeout (s.time 0)
  rw [hstart, bind_after?_of_timely (readCrash?_eq_none_iff.mp hstart).1] at hs
  simp only [read, platform, hs]

theorem read_of_crash (slices : Nat) (hl : h.live? = some d) (hlength : length ≠ 0) {crash : Crash}
    (hcrash : readCrash? length timeout (s.time 0) = some crash) :
    let x := h.read (s.platform c) slices length timeout {}
    x.1 = .crashed crash ∧ x.2.2.patiences = [] := by
  have hs := startRead_of_open hlength (live?_eq_some.mp hl).1 timeout (s.time 0)
  rw [hcrash] at hs
  simp only [read, platform, hs, and_self]

theorem read_blocking (slices : Nat) (hl : h.live? = some d) (hb : h.blocking = true) (hlength : length ≠ 0)
    (hstart : readCrash? length timeout (s.time 0) = none) :
    let x := h.read (s.platform c) slices length timeout {}
    let deadline := timeout.map (s.time 0 + ·)
    ∃ m e, s.Ends deadline slices m e ∧ x.1 = e ∧
      x.2.2.patiences = (List.range m).map (s.patience deadline h.interval) := by
  intro x deadline
  have hu : s.Underway deadline h.interval d 0 (h.reading length deadline) h ⟨1, []⟩ :=
    ⟨hb, rfl, hl, rfl, rfl, rfl⟩
  have hx : x = h.readSlices (s.platform c) slices (h.reading length deadline) ⟨1, []⟩ :=
    read_of_starts slices hl hlength hstart
  rw [hx]
  exact readSlices_ends hu (fun j hj => absurd hj (Nat.not_lt_zero j)) (Nat.zero_add slices)

theorem read_nonblocking (hl : h.live? = some d) (hb : h.blocking = false) (hlength : length ≠ 0)
    (hstart : readCrash? length timeout (s.time 0) = none) (hslices : 0 < slices) :
    let x := h.read (s.platform c) slices length timeout {}
    x.2.2.patiences = [0] ∧ x.1 = .returned (.ok (if 0 < (s.slice 0).count
      then .data (s.slice 0).report else .wouldBlock)) := by
  intro x
  obtain ⟨slices, rfl⟩ : ∃ n, slices = n + 1 := ⟨slices - 1, by omega⟩
  have hr : (h.reading length (timeout.map (s.time 0 + ·))).blocking = false := hb
  have hslice (interval : Duration) (now : Instant) :
      (h.reading length (timeout.map (s.time 0 + ·))).slice interval now = 0 := by
    simp [Reading.slice, hr]
  have hx := read_of_starts (c := c) (slices + 1) hl hlength hstart
  rw [readSlices, readSlice_eq hl, hslice] at hx
  by_cases hdata : 0 < (s.slice 0).count
  · simp only [List.length_nil, after_data hdata, List.nil_append] at hx
    simp [x, hx, hdata]
  · have hafter (now : Instant) : (h.reading length (timeout.map (s.time 0 + ·))).after (s.slice 0) now =
        .error (.returned (.ok .wouldBlock)) := by
      simp [Reading.after, Reading.outcome?, hdata, hr]
    simp only [List.length_nil, hafter, List.nil_append] at hx
    simp [x, hx, hdata]

/-- What a read returns as data is what its last device read left at the front of the buffer. -/
theorem read_data (hl : h.live? = some d) (hlength : length ≠ 0) {report : Bytes}
    (hx : (h.read (s.platform c) slices length timeout {}).1 = .returned (.ok (.data report))) :
    ∃ k, (h.read (s.platform c) slices length timeout {}).2.2.patiences.length = k + 1 ∧
      0 < (s.slice k).count ∧ report = (s.slice k).report := by
  cases hstart : readCrash? length timeout (s.time 0) with
  | some crash =>
    rw [(read_of_crash slices hl hlength hstart).1] at hx
    cases hx
  | none =>
    cases hb : h.blocking with
    | false =>
      rcases Nat.eq_zero_or_pos slices with rfl | hslices
      · rw [read_of_starts _ hl hlength hstart] at hx
        cases hx
      obtain ⟨hpatiences, houtcome⟩ := read_nonblocking (c := c) hl hb hlength hstart hslices
      rw [houtcome] at hx
      by_cases hdata : 0 < (s.slice 0).count
      · rw [if_pos hdata] at hx
        cases hx
        exact ⟨0, by simp [hpatiences], hdata, rfl⟩
      · rw [if_neg hdata] at hx
        cases hx
    | true =>
      obtain ⟨m, e, he, hend, hpatiences⟩ :=
        read_blocking (c := c) slices hl hb hlength hstart
      obtain rfl := hend.symm.trans hx
      cases he with
      | @data k hk hg hdata => exact ⟨k, by simp [hpatiences], hdata, rfl⟩

/-- A read of an open handle, whatever the clock shows, the device reads bring and others do to the
mode. One that does not block makes one device read without a wait. One that blocks goes on until a
device read brings something or the look at the clock behind it shows the deadline, and gives each
device read the interval at most, and the time that is left. All this holds exactly if the clock can show
the deadline and there can be a buffer of the length: otherwise the read crashes before it comes to the
device. -/
theorem read_in_slices (s : Circumstances) (c : DeviceCalls SliceLog D Received) (path : String) (d : D)
    (interval : Duration) (blocking : Bool) (slices length : Nat) (timeout : Option Duration)
    (hlength : length ≠ 0)
    (hslice : ∀ k, (s.slice k).buffer.length = length ∧ (s.slice k).count ≤ length) :
    let h := { Handle.opened path d interval with blocking }
    let x := h.read (s.platform c) slices length timeout {}
    let deadline := timeout.map (s.time 0 + ·)
    let bound := Duration.clamp (Duration.millis 1) (Duration.millis 100) interval
    ((∀ t ∈ deadline, t < Instant.limit) → length ≤ maxBuffer →
      (blocking = false → 0 < slices → x.2.2.patiences = [0] ∧
        x.1 = .returned (.ok (if 0 < (s.slice 0).count
          then .data (s.slice 0).report else .wouldBlock))) ∧
      (blocking = true → (∃ m e, s.Ends deadline slices m e) ∧
        ∀ m e, s.Ends deadline slices m e → x.1 = e ∧
          x.2.2.patiences = (List.range m).map (s.patience deadline bound))) ∧
    ((∃ t ∈ deadline, Instant.limit ≤ t) → x.1 = .crashed .beyondClock ∧ x.2.2.patiences = []) ∧
    ((∀ t ∈ deadline, t < Instant.limit) → maxBuffer < length →
      x.1 = .crashed .beyondMemory ∧ x.2.2.patiences = []) ∧
    ∀ report, x.1 = .returned (.ok (.data report)) → ∃ k, x.2.2.patiences.length = k + 1 ∧
      report = (s.slice k).report ∧ report.length = (s.slice k).count ∧
      1 ≤ report.length ∧ report.length ≤ length := by
  intro h x deadline bound
  have hl : h.live? = some d := rfl
  have htimely (ht : ∀ t ∈ deadline, t < Instant.limit) : ∀ t ∈ timeout, s.time 0 + t < Instant.limit :=
    fun t hmem => ht _ (Option.mem_map_of_mem _ hmem)
  refine ⟨fun ht hfits => ?starts, fun hlate => ?late, fun ht hlong => ?long, ?data⟩
  case starts =>
    have hstart : readCrash? length timeout (s.time 0) = none :=
      readCrash?_eq_none_iff.mpr ⟨htimely ht, hfits⟩
    refine ⟨fun hb hslices => read_nonblocking hl hb hlength hstart hslices, fun hb => ?_⟩
    obtain ⟨m, e, hends, hx, hpatiences⟩ := read_blocking (c := c) slices hl hb hlength hstart
    refine ⟨⟨m, e, hends⟩, ?_⟩
    intro m' e' hends'
    obtain ⟨rfl, rfl⟩ := hends'.unique hends
    exact ⟨hx, hpatiences⟩
  case late =>
    obtain ⟨t, hmem, ht⟩ := hlate
    obtain ⟨d, hd, rfl⟩ := Option.map_eq_some_iff.mp hmem
    exact read_of_crash slices hl hlength (readCrash?_of_late ⟨d, hd, ht⟩)
  case long =>
    refine read_of_crash slices hl hlength ?_
    rw [readCrash?_of_timely (htimely ht), bufferCrash?, if_pos hlong]
  case data =>
    intro report hx
    obtain ⟨k, hlen, hdata, rfl⟩ := read_data hl hlength hx
    have hreport : (s.slice k).report.length = (s.slice k).count := by
      simp [Received.report, hslice k]
    exact ⟨k, hlen, rfl, hreport, hreport ▸ hdata, hreport ▸ (hslice k).2⟩

def lateReport : Circumstances where
  time look := Duration.millis (5 * look)
  slice k := if k = 0 then ⟨0, [0, 9]⟩ else ⟨1, [7, 9]⟩
  mode _ := false

def quietCalls : DeviceCalls SliceLog Unit Received where
  read _ buffer _ l := (.ok ⟨0, buffer⟩, l)
  write _ report l := (.ok report.length, l)
  sendFeature _ report l := (.ok report.length, l)
  getFeature _ buffer l := (.ok ⟨0, buffer⟩, l)
  text _ _ l := (.ok none, l)
  outputLimit _ l := (none, l)
  release _ l := l

theorem read_lateReport :
    (2 : Nat) ≠ 0 ∧
    (∀ k, (lateReport.slice k).buffer.length = 2 ∧ (lateReport.slice k).count ≤ 2) ∧
    ((Handle.opened "virtual:0" () (Duration.millis 20)).read (lateReport.platform quietCalls) 9 2
      (some (Duration.millis 30)) {}).1 = .returned (.ok (.data [7])) ∧
    ((Handle.opened "virtual:0" () (Duration.millis 20)).read (lateReport.platform quietCalls) 9 2
      (some (Duration.millis 30)) {}).2.2.patiences = [Duration.millis 20, Duration.millis 15] := by
  have hslice (k : Nat) :
      (lateReport.slice k).buffer.length = 2 ∧ (lateReport.slice k).count ≤ 2 := by
    by_cases hk : k = 0 <;> simp [lateReport, hk]
  let deadline := some (lateReport.time 0 + Duration.millis 30)
  have hgoes : lateReport.GoesOn deadline 1 := by
    intro j hj
    obtain rfl : j = 0 := Nat.lt_one_iff.mp hj
    refine ⟨rfl, fun t ht => ?_⟩
    obtain rfl := Option.some.inj ht
    decide +kernel
  have hend : lateReport.Ends deadline 9 2 (.returned (.ok (.data [7]))) :=
    .data (k := 1) (by decide) hgoes (by decide)
  have hlimit : ∀ t ∈ deadline, t < Instant.limit := by
    intro t ht
    obtain rfl := Option.some.inj ht
    decide +kernel
  have hgiven : (List.range 2).map (lateReport.patience deadline
      (Duration.clamp (Duration.millis 1) (Duration.millis 100) (Duration.millis 20))) =
      [Duration.millis 20, Duration.millis 15] := by decide +kernel
  have hread := read_in_slices lateReport quietCalls "virtual:0" () (Duration.millis 20) true 9 2
    (some (Duration.millis 30)) (by decide) hslice
  obtain ⟨hdata, hpatiences⟩ := ((hread.1 hlimit (by decide)).2 rfl).2 2 _ hend
  exact ⟨by decide, hslice, hdata, hpatiences.trans hgiven⟩

def promptPair (length : Nat) : Circumstances where
  time _ := 0
  slice _ := ⟨2, List.replicate length 1⟩
  mode _ := true

/-- The same device read is made for a shorter buffer, and for no deadline. -/
theorem oversized_read_crashes :
    let read (length : Nat) (timeout : Option Duration) :=
      (Handle.opened "virtual:0" () (Duration.millis 20)).read ((promptPair length).platform quietCalls) 1
        length timeout {}
    (∀ k, ((promptPair (maxBuffer + 1)).slice k).buffer.length = maxBuffer + 1) ∧
      (read (maxBuffer + 1) none).1 = .crashed .beyondMemory ∧
      (read (maxBuffer + 1) none).2.2.patiences = [] ∧
      (read 8 (some Instant.limit)).1 = .crashed .beyondClock ∧
      (read 8 none).1 = .returned (.ok (.data [1, 1])) :=
  ⟨fun _ => List.length_replicate, rfl, rfl, rfl, rfl⟩

end Circumstances

end HidAccess.Handle
