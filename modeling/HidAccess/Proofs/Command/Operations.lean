import HidAccess.Proofs.Command.Scene
import HidAccess.Proofs.Handle.Operation

/-! What the operations of the commands do in a scene. Each one takes the handle from one state to another with
the notes of its exchanges; how it ends is settled by them. -/

namespace HidAccess
variable {W D α : Type}

def ReadEnd.report? : ReadEnd → Option Bytes
  | .returned (.ok outcome) => outcome.data?
  | _ => none

namespace Reading
variable {r : Reading} {received : Received} {now : Instant} {outcome : ReadOutcome}

theorem report?_of_outcome? (patience : Duration) (h : r.outcome? received now = some outcome) :
    (Note.asked patience (.ok received)).report? = outcome.data? := by
  simp only [outcome?] at h
  split at h
  next hcount =>
    cases h
    exact if_pos hcount
  next hcount =>
    refine (if_neg hcount).trans ?_
    split at h
    · cases h
      rfl
    · split at h <;> cases h
      rfl

theorem report?_of_goesOn (patience : Duration) (h : r.outcome? received now = none) :
    (Note.asked patience (.ok received)).report? = none := by
  refine if_neg fun hcount => ?_
  simp [outcome?, hcount] at h

end Reading

namespace Scene
variable (o : Scene W D)

theorem runs_withDevice (call : D → Watched W → Outcome (Watched W) α)
    {P : Except AccessError α → List Note → Prop} (hclosed : P (.error .handleClosed) [])
    (hcall : ∀ d s, ∃ notes, s.GrowsBy notes (call d s).2 ∧ P (call d s).1 notes) (h : Handle D)
    (s : Watched W) : ∃ notes, Runs (h, s) notes (h.withDevice o.platform call s).2 ∧
      P (h.withDevice o.platform call s).1 notes := by
  have hothers : Runs (h, s) [] (o.platform.acquire h s) := o.runs_others h s
  unfold Handle.withDevice
  generalize o.platform.acquire h s = x at hothers ⊢
  obtain ⟨h₁, s₁⟩ := x
  simp only
  split
  next => exact ⟨[], hothers, hclosed⟩
  next =>
    split
    next => exact ⟨[], hothers, hclosed⟩
    next d _ =>
      obtain ⟨notes, hgrows, hP⟩ := hcall d s₁
      have hruns := hothers.trans (.of_growsBy hgrows)
      generalize call d s₁ = result at hP hruns ⊢
      obtain ⟨e | a, t⟩ := result
      · refine ⟨notes, ?_, hP⟩
        simp only
        split
        · simpa using hruns.trans (o.runs_retire (p := o.platform) rfl h₁ t)
        · exact hruns
      · exact ⟨notes, hruns, hP⟩

theorem runs_readSlice (r : Reading) (h : Handle D) (s : Watched W) :
    ∃ notes, Runs (h, s) notes (h.readSlice o.platform r s).2 ∧
      ((∃ patience received now, (r.blocking = false → patience = 0) ∧
          notes = [.asked patience (.ok received)] ∧ (h.readSlice o.platform r s).1 = r.after received now) ∨
        ∃ patience e, (r.blocking = false → patience = 0) ∧
          (notes = [] ∨ notes = [.asked patience (.error e)]) ∧
          (h.readSlice o.platform r s).1 = .error (.returned (.error e))) := by
  have hnow : Runs (h, s) [] (h, (o.platform.now s).2) := .of_growsBy (o.growsBy_silently o.now s)
  unfold Handle.readSlice
  generalize o.platform.now s = x at hnow ⊢
  obtain ⟨now, t⟩ := x
  simp only
  have hpatience : r.blocking = false → r.slice h.interval now = 0 := by
    intro hr
    simp [Reading.slice, hr]
  obtain ⟨notes, hruns, hnotes⟩ := o.runs_withDevice
    (fun d w => o.platform.read d r.buffer (r.slice h.interval now) w)
    (P := fun result notes => notes = [.asked (r.slice h.interval now) result] ∨
      notes = [] ∧ result = .error .handleClosed) (.inr ⟨rfl, rfl⟩)
    (fun d s => ⟨_, o.growsBy_seen _ (o.backend.read d r.buffer (r.slice h.interval now)) s, .inl rfl⟩) h t
  have hruns := hnow.trans hruns
  rw [List.nil_append] at hruns
  generalize h.withDevice o.platform (fun d w => o.platform.read d r.buffer (r.slice h.interval now) w) t = x
    at hruns hnotes ⊢
  obtain ⟨e | received, h', t'⟩ := x
  · refine ⟨notes, hruns, .inr ⟨_, e, hpatience, ?_, rfl⟩⟩
    exact hnotes.elim .inr fun hnone => .inl hnone.1
  · refine ⟨notes, ?_, .inl ⟨_, received, (o.platform.now t').1, hpatience, ?_, rfl⟩⟩
    · have hlast : Runs (h', t') [] (h', (o.platform.now t').2) := .of_growsBy (o.growsBy_silently o.now t')
      simpa only [List.append_nil] using hruns.trans hlast
    · exact hnotes.elim id fun hnone => by cases hnone.2

/-- Of the device reads of a read at most the last brings a report, which is the report of the read. -/
theorem runs_readSlices (slices : Nat) (r : Reading) (h : Handle D) (s : Watched W) :
    ∃ notes, Runs (h, s) notes (h.readSlices o.platform slices r s).2 ∧ (∀ n ∈ notes, n.isExchange) ∧
      notes.filterMap Note.report? =
        (h.readSlices o.platform slices r s).1.report?.toList := by
  induction slices generalizing r h s with
  | zero => exact ⟨[], .refl _, by simp, rfl⟩
  | succ slices ih =>
    simp only [Handle.readSlices]
    obtain ⟨notes, hruns, ⟨patience, received, now, -, rfl, hended⟩ | ⟨patience, e, -, hnotes, hended⟩⟩ :=
      o.runs_readSlice r h s
    · rcases hslice : h.readSlice o.platform r s with ⟨result, h', t⟩
      rw [hslice] at hruns hended
      simp only at hended
      subst hended
      cases houtcome : r.outcome? received now with
      | some outcome =>
        have hreport := Reading.report?_of_outcome? patience houtcome
        refine ⟨[.asked patience (.ok received)], ?_, by simp [Note.isExchange], ?_⟩
        · simpa [Reading.after, houtcome] using hruns
        · simp only [Reading.after, houtcome, ReadEnd.report?]
          rw [← hreport]
          cases hr : (Note.asked patience (.ok received)).report? <;> simp [hr]
      | none =>
        have hreport := Reading.report?_of_goesOn patience houtcome
        obtain ⟨more, hmore, hexchange, hreports⟩ := ih { r with buffer := received.buffer } h' t
        refine ⟨.asked patience (.ok received) :: more, ?_, ?_, ?_⟩
        · simpa [Reading.after, houtcome] using hruns.trans hmore
        · simpa [Note.isExchange] using hexchange
        · simpa [Reading.after, houtcome, hreport] using hreports
    · rcases hslice : h.readSlice o.platform r s with ⟨result, h', t⟩
      rw [hslice] at hruns hended
      simp only at hended
      subst hended
      refine ⟨notes, hruns, ?_, ?_⟩
      · rcases hnotes with rfl | rfl <;> simp [Note.isExchange]
      · rcases hnotes with rfl | rfl <;> simp [ReadEnd.report?, Note.report?]

theorem runs_read (slices length : Nat) (timeout : Option Duration) (h : Handle D) (s : Watched W) :
    ∃ notes, Runs (h, s) (.began :: notes) (h.read o.platform slices length timeout s).2 ∧
      (∀ n ∈ notes, n.isExchange) ∧
      notes.filterMap Note.report? = (h.read o.platform slices length timeout s).1.report?.toList := by
  have hbegan := o.runs_meanwhile h s
  have hnow := hbegan.trans (.of_growsBy (o.growsBy_silently o.now (o.platform.meanwhile h s).2))
  rw [Handle.read_eq]
  obtain ⟨ended, hs, hrefusal⟩ | ⟨hs, -⟩ := (o.platform.meanwhile h s).1.startRead_cases length timeout
    (o.platform.now (o.platform.meanwhile h s).2).1 <;> rw [hs]
  · cases hrefusal <;> exact ⟨[], hnow, by simp, rfl⟩
  · obtain ⟨notes, hruns, hexchange, hreports⟩ := o.runs_readSlices slices _ _ _
    exact ⟨notes, hnow.trans hruns, hexchange, hreports⟩

/-- A close at the end: it is the only one, or the handler's is and this one is refused. -/
structure ClosedOnce (x y : Handle D × Watched W) : Prop where
  closed : y.1.closed = true
  once : ((x.1.close o.platform x.2).1 = .ok () ∧ y.2.shuts = 0) ∨
    ((x.1.close o.platform x.2).1 = .error .handleClosed ∧ y.2.shuts = 1)
  released : y.2.releases = 1

theorem finish_of_held {blocking : Bool} {x : Handle D × Watched W} (hx : Held blocking x) :
    (Command.finish o.console x.1 x.2).1 = .ok () ∧ o.ClosedOnce x (Command.finish o.console x.1 x.2).2 ∧
      (Command.finish o.console x.1 x.2).2.2.notes = x.2.notes := by
  have hothers : Runs x [] (o.platform.acquire x.1 x.2) := o.runs_others x.1 x.2
  have hnotes := hothers.notes
  have hheld := hothers.held hx
  cases hc : (o.platform.acquire x.1 x.2).1.closed with
  | true =>
    have hclose : x.1.close o.platform x.2 = (.error .handleClosed, o.platform.acquire x.1 x.2) :=
      close_of_closed hc
    have hfinish : Command.finish o.console x.1 x.2 = (.ok (), o.platform.acquire x.1 x.2) := by
      have hstop := hheld.stop hc
      unfold Command.finish
      rw [show o.console.toPlatform = o.platform from rfl, hclose]
      simp [Command.isInterruption, show o.console.stopped = Watched.stop from rfl, hstop]
    rw [hfinish]
    refine ⟨rfl, ⟨hc, .inr ⟨by rw [hclose], ?_⟩, ?_⟩, by simpa using hnotes⟩
    · exact hheld.shuts.trans (if_pos hc)
    · exact hheld.releases.trans (if_pos (by rw [hheld.device hc]; rfl))
  | false =>
    have hretire := o.runs_retire (p := o.platform) rfl (o.platform.acquire x.1 x.2).1
      (o.platform.acquire x.1 x.2).2
    have hclose := close_of_open hc
    have hfinish : Command.finish o.console x.1 x.2 = x.1.close o.platform x.2 := by
      unfold Command.finish
      rw [show o.console.toPlatform = o.platform from rfl, hclose]
    rw [hfinish, hclose]
    have hretired := hretire.held hheld
    refine ⟨rfl, ⟨rfl, .inl ⟨by rw [hclose], ?_⟩, ?_⟩, ?_⟩
    · exact hretired.shuts.trans (if_neg (by simp [Handle.retire, hc]))
    · exact hretired.releases
    · simpa [hnotes] using hretire.notes

/-- After a success the handle is closed once. A failure leaves everything as it is. -/
theorem finishAfter_told {blocking : Bool} {x : Handle D × Watched W} (hx : Held blocking x)
    (result : Except Failure Unit) :
    let y := Command.finishAfter o.console (some result, x)
    y.1 = some result ∧ y.2.2.notes = x.2.notes ∧ (result = .ok () → o.ClosedOnce x y.2) := by
  cases result with
  | error f => exact ⟨rfl, rfl, fun h => by cases h⟩
  | ok _ =>
    obtain ⟨hok, hclosed, hnotes⟩ := o.finish_of_held hx
    have hy : Command.finishAfter o.console (some (.ok ()), x) =
        (some (.ok ()), (Command.finish o.console x.1 x.2).2) := by
      simp only [Command.finishAfter, hok]
      rfl
    rw [hy]
    exact ⟨rfl, hnotes, fun _ => hclosed⟩

theorem openTarget_start (interval : Duration) (t : Target) (w : W) :
    Command.openTarget (o.manager interval) t { world := w } =
      ((Command.openTarget { backend := o.backend, interval } t w).1,
        { world := (Command.openTarget { backend := o.backend, interval } t w).2 }) := by
  have hopen (path : String) (w : W) : (o.manager interval).openPath path { world := w } =
      ((Manager.openPath { backend := o.backend, interval } path w).1,
        { world := (Manager.openPath { backend := o.backend, interval } path w).2 }) := rfl
  have hids (vendorId productId : UInt16) :
      (o.manager interval).openIds vendorId productId t.serial { world := w } =
      ((Manager.openIds { backend := o.backend, interval } vendorId productId t.serial w).1,
        { world := (Manager.openIds { backend := o.backend, interval } vendorId productId t.serial w).2 }) := by
    have hlist : (o.manager interval).enumerate vendorId productId { world := w } =
        ((Manager.enumerate { backend := o.backend, interval } vendorId productId w).1,
          { world := (Manager.enumerate { backend := o.backend, interval } vendorId productId w).2 }) := rfl
    unfold Manager.openIds
    rw [hlist]
    rcases Manager.enumerate { backend := o.backend, interval } vendorId productId w with ⟨e | devices, w'⟩
    · rfl
    · simp only
      split
      · exact hopen _ _
      · rfl
  unfold Command.openTarget
  split
  · rw [hopen]
  · rw [hids]
  · rfl

end Scene

theorem Manager.openPath_ok {m : Manager W D} {path : String} {w w' : W} {h : Handle D}
    (hopen : m.openPath path w = (.ok h, w')) : h.closed = false ∧ h.device.isSome := by
  simp only [openPath] at hopen
  cases hr : (m.backend.openPath path w).1 with
  | error e => simp [hr, Except.map] at hopen
  | ok d =>
    simp only [hr, Except.map, Prod.mk.injEq, Except.ok.injEq] at hopen
    obtain ⟨rfl, -⟩ := hopen
    exact ⟨rfl, rfl⟩

theorem Manager.openIds_ok {m : Manager W D} {vendorId productId : UInt16} {serial : Option String} {w w' : W}
    {h : Handle D} (hopen : m.openIds vendorId productId serial w = (.ok h, w')) :
    h.closed = false ∧ h.device.isSome := by
  unfold openIds at hopen
  split at hopen
  · cases hopen
  · split at hopen
    · exact openPath_ok hopen
    · cases hopen

theorem Command.openTarget_ok {m : Manager W D} {t : Target} {w w' : W} {h : Handle D}
    (hopen : openTarget m t w = (.ok h, w')) : h.closed = false ∧ h.device.isSome := by
  have hopened {r : Outcome W (Handle D)}
      (hr : (r.1.mapError (Failure.within "cannot open device"), r.2) = (.ok h, w')) : r = (.ok h, w') := by
    obtain ⟨e | h', w₁⟩ := r
    · cases hr
    · cases hr
      rfl
  unfold openTarget at hopen
  split at hopen
  · exact Manager.openPath_ok (hopened hopen)
  · exact Manager.openIds_ok (hopened hopen)
  · cases hopen

namespace Scene
variable (o : Scene W D)

theorem held_of_prepare {interval : Duration} {t : Target} {blocking : Bool} {w : W}
    {r : Except Failure (Handle D)} {s : Watched W}
    (hp : Command.prepare o.console (o.manager interval) t blocking { world := w } = (r, s)) :
    (∃ e, r = .error e ∧ s.notes = []) ∨ ∃ h, r = .ok h ∧ s.notes = [.began] ∧ Held blocking (h, s) := by
  unfold Command.prepare at hp
  rw [openTarget_start] at hp
  rcases hopen : Command.openTarget { backend := o.backend, interval } t w with ⟨e | h, w₁⟩
  · rw [hopen] at hp
    cases hp
    exact .inl ⟨e, rfl, rfl⟩
  · rw [hopen] at hp
    obtain ⟨hclosed, hdevice⟩ := Command.openTarget_ok hopen
    have hidle :
        o.platform.meanwhile h { world := w₁ } = (h, { world := o.between w₁, notes := [.began] }) := rfl
    have hset : h.setBlocking o.console.toPlatform blocking { world := w₁ } =
        (.ok (), { h with blocking }, { world := o.between w₁, notes := [.began] }) := by
      unfold Handle.setBlocking
      rw [show o.console.toPlatform = o.platform from rfl, hidle]
      simp [Handle.ensureOpen, hclosed]
    simp only [hset] at hp
    cases hp
    have hsome : h.device.isNone = false := by cases hd : h.device <;> simp_all
    exact .inr ⟨_, rfl, rfl,
      { blocking := rfl
        stop := fun hc => absurd hc (by simp [hclosed])
        device := fun hc => absurd hc (by simp [hclosed])
        shuts := (if_neg (by simp [hclosed])).symm
        releases := (if_neg (by simp [hsome])).symm }⟩

end Scene

end HidAccess
