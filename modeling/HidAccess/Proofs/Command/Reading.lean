import HidAccess.Proofs.Command.Operations

/-! Reading from the command line. The reads are numbered from 0 on. Each one that brings a report is followed
by the line of the report and, unless the count is reached, by the next one; any other puts an end to reading.
So what is printed are the reports that the device has given, and nobody looks for another after the end. -/

namespace HidAccess
variable {W D : Type}

namespace Command
variable (c : Console W D) (slices : Nat) (q : ReadRequest) (x : Handle D × W)

def line (report : Bytes) : String := report.spaced ++ "\n"

def readOnce : ReadEnd × Handle D × W := x.1.read c.toPlatform slices q.length q.timeout x.2

def printed (text : Option String) (w : W) : W := text.elim w fun text => c.print text w

def beforeRead : Nat → Handle D × W
  | 0 => x
  | n + 1 =>
    let (r, h, w) := readOnce c slices q (beforeRead n)
    (h, printed c (r.report?.map line) w)

def brought (n : Nat) : ReadEnd := (readOnce c slices q (beforeRead c slices q x n)).1

def afterRead (n : Nat) : Handle D × W := (readOnce c slices q (beforeRead c slices q x n)).2

def Brings (reports : List Bytes) : Prop :=
  ∀ i report, reports[i]? = some report → brought c slices q x i = .returned (.ok (.data report))

def Wants (n : Nat) : Prop := q.count = 0 ∨ n < q.count

/-- How reading ends after these reports: the number of all its reads, its notice, its result, and what there
is before the notice is printed. -/
inductive Stops (reports : List Bytes) : Nat → Option String → Except Failure Unit → Handle D × W → Prop
  | counted : q.count ≠ 0 → reports.length = q.count →
      Stops reports reports.length none (.ok ()) (beforeRead c slices q x reports.length)
  | nothing : Wants q reports.length → brought c slices q x reports.length = .returned (.ok .wouldBlock) →
      Stops reports (reports.length + 1) (some "(no report pending)\n") (.ok ())
        (afterRead c slices q x reports.length)
  | timedOut : Wants q reports.length → brought c slices q x reports.length = .returned (.ok .timedOut) →
      Stops reports (reports.length + 1) (some "(timed out)\n") (.ok ()) (afterRead c slices q x reports.length)
  | interrupted : Wants q reports.length →
      brought c slices q x reports.length = .returned (.error .handleClosed) →
      c.stopped (afterRead c slices q x reports.length).2 = true →
      Stops reports (reports.length + 1) none (.ok ()) (afterRead c slices q x reports.length)
  | failed {e : AccessError} : Wants q reports.length →
      brought c slices q x reports.length = .returned (.error e) →
      ¬ (e = .handleClosed ∧ c.stopped (afterRead c slices q x reports.length).2 = true) →
      Stops reports (reports.length + 1) none (.error (.access e)) (afterRead c slices q x reports.length)
  | crashed {crash : Crash} : Wants q reports.length →
      brought c slices q x reports.length = .crashed crash →
      Stops reports (reports.length + 1) none (.error (.crashed crash)) (afterRead c slices q x reports.length)

inductive ReadingResult (limit : Nat) (reports : List Bytes) :
    Option (Except Failure Unit) × Handle D × W → Prop
  | limited : reports.length = limit →
      ReadingResult limit reports (none, beforeRead c slices q x reports.length)
  | waiting : Wants q reports.length → brought c slices q x reports.length = .waiting →
      ReadingResult limit reports (none, afterRead c slices q x reports.length)
  | stopped {reads : Nat} {notice : Option String} {result : Except Failure Unit} {z : Handle D × W} :
      Stops c slices q x reports reads notice result z →
      ReadingResult limit reports (some result, z.1, printed c notice z.2)

variable {c slices q x} {reports : List Bytes} {report : Bytes}

theorem brings_nil : Brings c slices q x [] := by
  intro i report h
  cases h

theorem brings_concat (h : Brings c slices q x reports)
    (hr : brought c slices q x reports.length = .returned (.ok (.data report))) :
    Brings c slices q x (reports ++ [report]) := by
  intro i r hi
  obtain hlt | rfl | hgt := Nat.lt_trichotomy i reports.length
  · rw [List.getElem?_append_left hlt] at hi
    exact h i r hi
  · obtain rfl : report = r := by simpa using hi
    exact hr
  · rw [List.getElem?_eq_none (by simpa using Nat.succ_le_of_lt hgt)] at hi
    cases hi

theorem isInterruption_iff {e : AccessError} {w : W} :
    isInterruption c e w = true ↔ e = .handleClosed ∧ c.stopped w = true := by
  simp [isInterruption]

theorem readReports_round (fuel n : Nat) :
    readReports c slices q (fuel + 1) n (beforeRead c slices q x n).1 (beforeRead c slices q x n).2 =
      if q.count ≠ 0 ∧ q.count ≤ n then (some (.ok ()), beforeRead c slices q x n)
      else
        let z := afterRead c slices q x n
        match brought c slices q x n with
        | .returned (.ok (.data report)) =>
          readReports c slices q fuel (n + 1) z.1 (printed c (some (line report)) z.2)
        | .returned (.ok .wouldBlock) => (some (.ok ()), z.1, printed c (some "(no report pending)\n") z.2)
        | .returned (.ok .timedOut) => (some (.ok ()), z.1, printed c (some "(timed out)\n") z.2)
        | .returned (.error e) => (some (if isInterruption c e z.2 then .ok () else .error (.access e)), z)
        | .crashed crash => (some (.error (.crashed crash)), z)
        | .waiting => (none, z) := by
  rw [readReports, show (beforeRead c slices q x n).1.read c.toPlatform slices q.length q.timeout
    (beforeRead c slices q x n).2 = (brought c slices q x n, afterRead c slices q x n) from rfl]
  rcases brought c slices q x n with (e | report | _ | _) | crash | _ <;> rfl

theorem beforeRead_succ {n : Nat} (h : brought c slices q x n = .returned (.ok (.data report))) :
    beforeRead c slices q x (n + 1) =
      ((afterRead c slices q x n).1, printed c (some (line report)) (afterRead c slices q x n).2) := by
  unfold brought at h
  simp only [beforeRead, h]
  rfl

theorem readingResult_readReports (fuel : Nat) (hb : Brings c slices q x reports)
    (hw : q.count = 0 ∨ reports.length ≤ q.count) :
    ∃ all, Brings c slices q x all ∧ (q.count = 0 ∨ all.length ≤ q.count) ∧
      ReadingResult c slices q x (reports.length + fuel) all (readReports c slices q fuel reports.length
        (beforeRead c slices q x reports.length).1 (beforeRead c slices q x reports.length).2) := by
  induction fuel generalizing reports with
  | zero => exact ⟨reports, hb, hw, .limited rfl⟩
  | succ fuel ih =>
    rw [readReports_round]
    by_cases hcount : q.count ≠ 0 ∧ q.count ≤ reports.length
    · rw [if_pos hcount]
      have hlength : reports.length = q.count := Nat.le_antisymm (hw.resolve_left hcount.1) hcount.2
      exact ⟨reports, hb, hw, .stopped (.counted hcount.1 hlength)⟩
    rw [if_neg hcount]
    have hwants : Wants q reports.length := by
      unfold Wants
      omega
    rcases hr : brought c slices q x reports.length with (e | report | _ | _) | crash | _
    · refine ⟨reports, hb, hw, ?_⟩
      by_cases he : isInterruption c e (afterRead c slices q x reports.length).2 = true
      · obtain ⟨rfl, hstop⟩ := isInterruption_iff.mp he
        simp only [he, if_true]
        exact .stopped (.interrupted hwants hr hstop)
      · simp only [he]
        exact .stopped (.failed hwants hr fun hi => he (isInterruption_iff.mpr hi))
    · have hnext : q.count = 0 ∨ (reports ++ [report]).length ≤ q.count := by
        rwa [List.length_append, List.length_singleton]
      have hrest := ih (brings_concat hb hr) hnext
      rw [List.length_append, List.length_singleton, beforeRead_succ hr, Nat.add_assoc,
        Nat.add_comm 1 fuel] at hrest
      exact hrest
    · exact ⟨reports, hb, hw, .stopped (.nothing hwants hr)⟩
    · exact ⟨reports, hb, hw, .stopped (.timedOut hwants hr)⟩
    · exact ⟨reports, hb, hw, .stopped (.crashed hwants hr)⟩
    · exact ⟨reports, hb, hw, .waiting hwants hr⟩

end Command

structure Tally (notes : List Note) (begins : Nat) (texts : List String) (reports : List Bytes) : Prop where
  begins : notes.countP Note.isBegin = begins
  texts : notes.filterMap Note.text? = texts
  reports : notes.filterMap Note.report? = reports

theorem Tally.append {notes notes' : List Note} {begins begins' : Nat} {texts texts' : List String}
    {reports reports' : List Bytes} (h : Tally notes begins texts reports)
    (h' : Tally notes' begins' texts' reports') :
    Tally (notes ++ notes') (begins + begins') (texts ++ texts') (reports ++ reports') where
  begins := by rw [List.countP_append, h.begins, h'.begins]
  texts := by rw [List.filterMap_append, h.texts, h'.texts]
  reports := by rw [List.filterMap_append, h.reports, h'.reports]

theorem tally_of_exchanges {notes : List Note} (h : ∀ n ∈ notes, n.isExchange) :
    Tally notes 0 [] (notes.filterMap Note.report?) where
  begins := by
    rw [List.countP_eq_zero]
    intro n hn
    simp [Note.isBegin_of_isExchange (h n hn)]
  texts := by
    rw [List.filterMap_eq_nil_iff]
    exact fun n hn => Note.text?_of_isExchange (h n hn)
  reports := rfl

theorem tally_began : Tally [.began] 1 [] [] := ⟨rfl, rfl, rfl⟩

theorem Tally.of_runs {x y : Handle D × Watched W} {notes : List Note} {begins : Nat} {texts : List String}
    {reports : List Bytes} (h : Tally notes begins texts reports) (hruns : Runs x notes y) :
    y.2.begins = x.2.begins + begins ∧ y.2.texts = x.2.texts ++ texts ∧ y.2.reports = x.2.reports ++ reports :=
  ⟨by rw [hruns.begins, h.begins], by rw [hruns.texts, h.texts], by rw [hruns.reports, h.reports]⟩

namespace Scene
variable (o : Scene W D) {slices limit : Nat} {q : ReadRequest} {x : Handle D × Watched W}
  {reports : List Bytes} {y : Option (Except Failure Unit) × Handle D × Watched W}
open Command (line printed brought beforeRead afterRead readOnce Brings Stops ReadingResult)

theorem runs_printed (text : Option String) (h : Handle D) (s : Watched W) :
    ∃ notes, Runs (h, s) notes (h, printed o.console text s) ∧ Tally notes 0 text.toList [] := by
  cases text with
  | none => exact ⟨[], .refl _, rfl, rfl, rfl⟩
  | some text => exact ⟨[.printed text], .of_growsBy (s.growsBy_note _), rfl, rfl, rfl⟩

theorem runs_readOnce (slices : Nat) (q : ReadRequest) (x : Handle D × Watched W) :
    ∃ notes, Runs x notes (readOnce o.console slices q x).2 ∧
      Tally notes 1 [] (readOnce o.console slices q x).1.report?.toList := by
  obtain ⟨notes, hruns, hexchange, hreports⟩ := o.runs_read slices q.length q.timeout x.1 x.2
  have htally := tally_began.append (tally_of_exchanges hexchange)
  rw [hreports] at htally
  exact ⟨.began :: notes, hruns, htally⟩

theorem runs_beforeRead (hb : Brings o.console slices q x reports) {n : Nat} (hn : n ≤ reports.length) :
    ∃ notes, Runs x notes (beforeRead o.console slices q x n) ∧
      Tally notes n ((reports.take n).map line) (reports.take n) := by
  induction n with
  | zero => exact ⟨[], .refl _, rfl, rfl, rfl⟩
  | succ n ih =>
    obtain ⟨before, hbefore, htold⟩ := ih (Nat.le_of_succ_le hn)
    obtain ⟨read, hread, htally⟩ := o.runs_readOnce slices q (beforeRead o.console slices q x n)
    have hdata : brought o.console slices q x n = .returned (.ok (.data reports[n])) :=
      hb n reports[n] (List.getElem?_eq_getElem hn)
    rw [Command.beforeRead_succ hdata]
    obtain ⟨shown, hshown, htext⟩ := o.runs_printed (some (line reports[n]))
      (afterRead o.console slices q x n).1 (afterRead o.console slices q x n).2
    unfold brought at hdata
    rw [hdata] at htally
    refine ⟨_, (hbefore.trans hread).trans hshown, ?_⟩
    have hall := (htold.append htally).append htext
    rw [List.take_succ_eq_append_getElem hn, List.map_append]
    simpa [ReadEnd.report?, ReadOutcome.data?] using hall

theorem runs_afterRead (hb : Brings o.console slices q x reports)
    (hnone : (brought o.console slices q x reports.length).report? = none) :
    ∃ notes, Runs x notes (afterRead o.console slices q x reports.length) ∧
      Tally notes (reports.length + 1) (reports.map line) reports := by
  obtain ⟨before, hbefore, htold⟩ := o.runs_beforeRead hb (Nat.le_refl _)
  obtain ⟨read, hread, htally⟩ := o.runs_readOnce slices q (beforeRead o.console slices q x reports.length)
  unfold brought at hnone
  rw [hnone] at htally
  exact ⟨_, hbefore.trans hread, by simpa using htold.append htally⟩

theorem runs_stops {reads : Nat} {notice : Option String} {result : Except Failure Unit}
    {z : Handle D × Watched W} (hb : Brings o.console slices q x reports)
    (hs : Stops o.console slices q x reports reads notice result z) :
    ∃ notes, Runs x notes (z.1, printed o.console notice z.2) ∧
      Tally notes reads (reports.map line ++ notice.toList) reports := by
  have hend : ∃ notes, Runs x notes z ∧ Tally notes reads (reports.map line) reports := by
    cases hs with
    | counted =>
      obtain ⟨notes, hruns, htally⟩ := o.runs_beforeRead hb (Nat.le_refl _)
      exact ⟨notes, hruns, by simpa using htally⟩
    | nothing _ hr | timedOut _ hr | interrupted _ hr | failed _ hr | crashed _ hr =>
      exact o.runs_afterRead hb (by rw [hr]; rfl)
  obtain ⟨notes, hruns, htally⟩ := hend
  obtain ⟨shown, hshown, htext⟩ := o.runs_printed notice z.1 z.2
  exact ⟨_, hruns.trans hshown, by simpa using htally.append htext⟩

/-- What is told when reading has come to something and what is left to do is done. -/
theorem told_of_readingResult {blocking : Bool} (hx : Held blocking x) (hb : Brings o.console slices q x reports)
    (hy : ReadingResult o.console slices q x limit reports y) :
    let z := Command.finishAfter o.console y
    z.2.2.reports = x.2.reports ++ reports ∧
      ((z.1 = none ∧ z.2.2.texts = x.2.texts ++ reports.map line ∧
          (reports.length = limit ∨ brought o.console slices q x reports.length = .waiting)) ∨
        ∃ reads notice result before, Stops o.console slices q x reports reads notice result before ∧
          z.1 = some result ∧ z.2.2.begins = x.2.begins + reads ∧
          z.2.2.texts = x.2.texts ++ (reports.map line ++ notice.toList) ∧
          (result = .ok () → o.ClosedOnce (before.1, printed o.console notice before.2) z.2)) := by
  cases hy with
  | limited hlimit =>
    obtain ⟨notes, hruns, htally⟩ := o.runs_beforeRead hb (Nat.le_refl _)
    obtain ⟨-, htexts, hreports⟩ := htally.of_runs hruns
    rw [List.take_length] at htexts hreports
    exact ⟨hreports, .inl ⟨rfl, htexts, .inl hlimit⟩⟩
  | waiting hwants hr =>
    obtain ⟨notes, hruns, htally⟩ := o.runs_afterRead hb (by rw [hr]; rfl)
    obtain ⟨-, htexts, hreports⟩ := htally.of_runs hruns
    exact ⟨hreports, .inl ⟨rfl, htexts, .inr hr⟩⟩
  | @stopped reads notice result before hs =>
    obtain ⟨notes, hruns, htally⟩ := o.runs_stops hb hs
    obtain ⟨hbegins, htexts, hreports⟩ := htally.of_runs hruns
    obtain ⟨hresult, hsame, hclosed⟩ := o.finishAfter_told (hruns.held hx) result
    refine ⟨?_, .inr ⟨reads, notice, result, before, hs, hresult, ?_, ?_, hclosed⟩⟩
    · exact (congrArg (List.filterMap Note.report?) hsame).trans hreports
    · exact (congrArg (List.countP Note.isBegin) hsame).trans hbegins
    · exact (congrArg (List.filterMap Note.text?) hsame).trans htexts

end Scene

/-- Reading prints the reports that the device gives, each one once and in order. It ends when the count is
reached or else with the first read that brings no report, with one notice at most. A result that is no failure
means that the handle is closed, once. -/
theorem Command.read_prints_reports (o : Scene W D) (interval : Duration) (slices fuel : Nat) (q : ReadRequest)
    (w : W) :
    let start := Command.prepare o.console (o.manager interval) q.target (!q.nonblocking) { world := w }
    let y := Command.read o.console (o.manager interval) slices fuel q { world := w }
    (∃ e s, start = (.error e, s) ∧ y = (some (.error e), s) ∧ s.notes = []) ∨
    ∃ h s reports, start = (.ok h, s) ∧ Brings o.console slices q (h, s) reports ∧
      (q.count = 0 ∨ reports.length ≤ q.count) ∧ y.2.reports = reports ∧
      ((y.1 = none ∧ y.2.texts = reports.map line ∧
          (reports.length = fuel ∨ brought o.console slices q (h, s) reports.length = .waiting)) ∨
        ∃ reads notice result before, Stops o.console slices q (h, s) reports reads notice result before ∧
          y.1 = some result ∧ y.2.begins = 1 + reads ∧ y.2.texts = reports.map line ++ notice.toList ∧
          (result = .ok () → ∃ h', o.ClosedOnce (before.1, printed o.console notice before.2) (h', y.2))) := by
  intro start y
  rcases hstart : start with ⟨r, s⟩
  obtain ⟨e, rfl, hnotes⟩ | ⟨h, rfl, hnotes, hheld⟩ := o.held_of_prepare hstart
  · refine .inl ⟨e, s, rfl, ?_, hnotes⟩
    simp only [y, read, show prepare _ _ _ _ _ = _ from hstart]
  · have hnone : Brings o.console slices q (h, s) [] := brings_nil
    obtain ⟨reports, hb, hcount, hresult⟩ := readingResult_readReports fuel hnone (.inr (Nat.zero_le _))
    rw [List.length_nil, Nat.zero_add] at hresult
    have hy : y = ((readWith o.console slices fuel q h s).1, (readWith o.console slices fuel q h s).2.2) := by
      simp only [y, read, show prepare _ _ _ _ _ = _ from hstart]
    have htold := o.told_of_readingResult hheld hb hresult
    rw [show s.reports = [] by simp [Watched.reports, hnotes, Note.report?],
      show s.texts = [] by simp [Watched.texts, hnotes, Note.text?],
      show s.begins = 1 by simp [Watched.begins, hnotes, Note.isBegin]] at htold
    refine .inr ⟨h, s, reports, rfl, hb, hcount, ?_⟩
    rw [hy]
    obtain ⟨hreports, hunfinished | ⟨reads, notice, result, before, hs, hresult, hbegins, htexts, hclosed⟩⟩ :=
      htold
    · exact ⟨hreports, .inl hunfinished⟩
    · exact ⟨hreports, .inr ⟨reads, notice, result, before, hs, hresult, hbegins, htexts,
        fun hok => ⟨_, hclosed hok⟩⟩⟩

def interruptedScene : Scene Nat Unit where
  backend :=
    { kind := .virtual
      enumerate := fun w => (.ok [], w)
      openPath := fun _ w => (.ok (), w)
      read := fun _ _ _ w => (.ok ⟨1, [UInt8.ofNat w]⟩, w + 1)
      write := fun _ report w => (.ok report.length, w)
      sendFeature := fun _ report w => (.ok report.length, w)
      getFeature := fun _ buffer w => (.ok ⟨0, buffer⟩, w)
      text := fun _ _ w => (.ok none, w)
      outputLimit := fun _ w => (none, w)
      release := fun _ w => w }
  now w := (0, w)
  sleep _ w := w
  between w := w
  interrupted w := decide (2 ≤ w)
  closes _ := true

example :
    let q : ReadRequest := { target := { path := some "device" }, length := 1, count := 0 }
    let y := Command.read interruptedScene.console (interruptedScene.manager 0) 1 5 q { world := 0 }
    y.1 = some (.ok ()) ∧ y.2.texts = ["00\n", "01\n"] ∧ y.2.shuts = 1 := by
  exact ⟨rfl, rfl, rfl⟩

end HidAccess
