import HidAccess.Proofs.Handle.Exclusion
import HidAccess.Proofs.VirtualBus.Queue

/-! Once a close has raised the flag, no thread comes to the device any more. The one thread that may
have been there ends its call, and every other operation that was going on is refused after a few
steps of its own. When the close has taken the device, no call begins. -/

namespace HidAccess.Handle
variable {T W D : Type}

def Sequel.answer? : Sequel → Option Answer
  | .answer a => some a
  | .consider _ _ => none

def Sequel.reading? : Sequel → Option Reading
  | .answer _ => none
  | .consider r _ => some r

def Sequel.left : Sequel → Nat
  | .answer _ => 2
  | .consider _ _ => 5

def Errand.reading? : Errand W D → Option Reading
  | .transfer _ => none
  | .slice r _ => some r

namespace Point

/-- The answer that a thread is bound to give once the flag is up. Where there is none, the thread
is at the device or comes from a device read. -/
def bound? : Point W D → Option Answer
  | .opening length _ => some (if length = 0 then .failed emptyRead else refusal)
  | .starting length timeout now => some (((readCrash? length timeout now).map .crashed).getD refusal)
  | .timing _ | .entering _ | .queued _ | .locked _ | .switching _ | .closing => some refusal
  | .ready _ _ | .calling _ _ | .considering _ _ => none
  | .retiring sequel | .leaving sequel => sequel.answer?
  | .storing _ | .awaiting | .taking | .taken _ | .releasing _ => some .done
  | .returning a => some a
  | .closed r => some (.ofExcept (fun _ => .done) r)

def reading? : Point W D → Option Reading
  | .timing r | .considering r _ => some r
  | .entering e | .queued e | .locked e | .ready e _ | .calling e _ => e.reading?
  | .retiring sequel | .leaving sequel => sequel.reading?
  | _ => none

/-- How many steps a thread has before it, at most, once the flag is up. -/
def left : Point W D → Nat
  | .returning _ | .closed _ => 1
  | .opening _ _ | .entering _ | .switching _ | .storing _ | .closing | .releasing _ => 2
  | .timing _ | .locked _ | .taken _ => 3
  | .starting _ _ _ | .queued _ | .considering _ _ | .taking => 4
  | .awaiting => 5
  | .calling _ _ => 6
  | .ready _ _ => 7
  | .retiring sequel => sequel.left + 1
  | .leaving sequel => sequel.left

end Point

/-- Why a blocking read that is cut off gives another answer than a refusal: its last device read
failed or brought a report, or its deadline is over. -/
inductive Excuses (r : Reading) : Deed D → Answer → Prop
  | failed (e : AccessError) : Excuses r (.ended (.error e)) (.failed e)
  | brought {received : Received} (now : Instant) : 0 < received.count →
    Excuses r (.considered received now) (.outcome (.data received.report))
  | late {received : Received} {now : Instant} : received.count = 0 → r.isPast now = true →
    Excuses r (.considered received now) (.outcome .timedOut)

section Move
variable {p : Platform W D} {t : T} {g g' : Common T W D} {pt pt' : Point W D} {deed : Deed D}

theorem answer_of_last (hm : pt.move p t g = some (deed, none, g')) :
    deed.answer?.isSome = true ∧ pt.left = 1 ∧ pt.bound? = deed.answer? ∧ pt.reading? = none := by
  cases pt <;> simp only [Point.move] at hm <;> (repeat' split at hm) <;> cases hm <;>
    simp [Point.bound?, Point.left, Point.reading?, Deed.answer?]

theorem no_answer_of_next (hm : pt.move p t g = some (deed, some pt', g')) :
    deed.answer? = none := by
  cases pt <;> simp only [Point.move] at hm <;> (repeat' split at hm) <;> cases hm <;> rfl

theorem call_of_reading {e : Errand W D} {r : Reading} (hr : e.reading? = some r) {d : D} {w : W}
    {sequel : Sequel} (hs : (e.call p d w).1 = .ok sequel) :
    ∃ received, sequel = .consider r received := by
  cases e with
  | transfer call => cases hr
  | slice r' patience =>
    cases hr
    simp only [Errand.call, Prod.map_fst] at hs
    cases hx : (p.read d r.buffer patience w).1 with
    | error e =>
      rw [hx] at hs
      cases hs
    | ok received =>
      rw [hx] at hs
      cases hs
      exact ⟨received, rfl⟩

section Closed
attribute [local simp] Point.bound? Point.reading? Point.left Sequel.answer? Sequel.reading?
  Sequel.left Sequel.next Errand.reading? live? Answer.ofExcept refusal

variable (hc : g.handle.closed = true)
  (hm : pt.move p t g = some (deed, some pt', g'))
include hc hm

theorem bound_next {a : Answer} (hb : pt.bound? = some a) : pt'.bound? = some a := by
  cases pt with
  | leaving sequel => cases sequel <;> cases hm <;> simp_all
  | _ =>
    simp only [Point.move] at hm
    (repeat' split at hm) <;> cases hm <;> simp_all

theorem left_next : pt'.left < pt.left := by
  cases pt with
  | leaving sequel => cases sequel <;> cases hm <;> simp
  | locked e =>
    simp only [Point.move, live?_of_closed hc] at hm
    cases hm
    simp
  | calling e d =>
    simp only [Point.move] at hm
    generalize (e.call p d g.world).1 = result at hm
    cases result with
    | error e => split at hm <;> cases hm <;> simp [Sequel.ofCall]
    | ok sequel =>
      rw [isLost, if_neg Bool.false_ne_true] at hm
      cases sequel <;> cases hm <;> simp [Sequel.ofCall]
  | _ =>
    simp only [Point.move] at hm
    (repeat' split at hm) <;> cases hm <;> simp

theorem reading_next {r : Reading} (hr : pt.reading? = some r) (hb : r.blocking = true) :
    pt'.bound? = none ∧ pt'.reading? = some r ∨
      ∃ a, pt'.bound? = some a ∧ (a = refusal ∨ Excuses r deed a) := by
  cases pt with
  | calling e d =>
    have hs : ∀ sequel, (e.call p d g.world).1 = .ok sequel →
        ∃ received, sequel = .consider r received := fun _ => call_of_reading hr
    simp only [Point.move] at hm
    generalize (e.call p d g.world).1 = result at hm hs
    cases result with
    | error e =>
      have hx : Excuses r (.ended (.error e) : Deed D) (.failed e) := .failed e
      split at hm <;> cases hm <;> exact .inr ⟨_, rfl, .inr hx⟩
    | ok sequel =>
      obtain ⟨received, rfl⟩ := hs sequel rfl
      cases hm
      exact .inl ⟨rfl, rfl⟩
  | considering r' received =>
    cases hr
    simp only [Point.move, Reading.after, Reading.outcome?, hb] at hm
    cases hm
    by_cases h0 : 0 < received.count
    · exact .inr ⟨_, by simp [h0]; rfl, .inr (.brought _ h0)⟩
    · by_cases hp : r.isPast (p.now g.world).1 = true
      · exact .inr ⟨_, by simp [h0, hp]; rfl, .inr (.late (by omega) hp)⟩
      · exact .inr ⟨refusal, by simp [h0, hp], .inl rfl⟩
  | leaving sequel =>
    cases sequel with
    | answer a => cases hr
    | consider r' received =>
      cases hr
      cases hm
      exact .inl ⟨rfl, rfl⟩
  | opening | starting | switching | storing | returning | closing | awaiting | taking | taken
  | releasing | closed => cases hr
  | timing | entering | queued | locked => exact .inr ⟨refusal, bound_next hc hm rfl, .inl rfl⟩
  | ready e d =>
    cases hm
    exact .inl ⟨rfl, hr⟩
  | retiring sequel =>
    cases sequel with
    | answer a => cases hr
    | consider r' received =>
      cases hm
      exact .inl ⟨rfl, hr⟩

end Closed
end Move

def course [DecidableEq T] (t : T) : List (T × Deed D) → List (Deed D)
  | [] => []
  | (t', deed) :: later =>
    if t' ≠ t then course t later
    else if deed.answer?.isSome then [deed]
    else deed :: course t later

/-- How an operation goes on from a point where the flag is up. -/
structure CutShort (pt : Point W D) (deeds : List (Deed D)) : Prop where
  length : deeds.length ≤ pt.left
  bound : ∀ b, pt.bound? = some b → ∀ deed ∈ deeds, ∀ a, deed.answer? = some a → a = b
  reading : ∀ r, pt.reading? = some r → r.blocking = true →
    ∀ deed ∈ deeds, ∀ a, deed.answer? = some a →
      a = refusal ∨ ∃ cause ∈ deeds, Excuses r cause a

namespace CutShort
variable {p : Platform W D} {t : T} {g g' : Common T W D} {pt pt' : Point W D} {deed : Deed D}
  {deeds : List (Deed D)}

theorem nil (pt : Point W D) : CutShort pt [] where
  length := Nat.zero_le _
  bound := by simp
  reading := by simp

theorem last (hm : pt.move p t g = some (deed, none, g')) : CutShort pt [deed] := by
  obtain ⟨-, hl, hb, hr⟩ := answer_of_last hm
  constructor
  case length => simp [hl]
  case bound =>
    intro b hb' deed' hd a ha
    rw [List.mem_singleton.mp hd, ← hb, hb'] at ha
    exact (Option.some.inj ha).symm
  case reading =>
    intro r hr'
    rw [hr] at hr'
    cases hr'

theorem mem_of_answer (hn : deed.answer? = none) {deed' : Deed D} (hd : deed' ∈ deed :: deeds)
    {a : Answer} (ha : deed'.answer? = some a) : deed' ∈ deeds := by
  obtain rfl | hd := List.mem_cons.mp hd
  · rw [hn] at ha
    cases ha
  · exact hd

theorem next (hc : g.handle.closed = true) (hm : pt.move p t g = some (deed, some pt', g'))
    (h : CutShort pt' deeds) : CutShort pt (deed :: deeds) := by
  have hn := no_answer_of_next hm
  constructor
  case length =>
    have hl := left_next hc hm
    have hlength := h.length
    simp only [List.length_cons]
    omega
  case bound =>
    intro b hb deed' hd a ha
    exact h.bound b (bound_next hc hm hb) deed' (mem_of_answer hn hd ha) a ha
  case reading =>
    intro r hr hblocking deed' hd a ha
    have hd := mem_of_answer hn hd ha
    obtain ⟨-, hr'⟩ | ⟨b, hb, hcause⟩ := reading_next hc hm hr hblocking
    · obtain hrefused | ⟨cause, hcause, hx⟩ := h.reading r hr' hblocking deed' hd a ha
      · exact .inl hrefused
      · exact .inr ⟨cause, List.mem_cons_of_mem _ hcause, hx⟩
    · rw [h.bound b hb deed' hd a ha]
      exact hcause.imp_right fun hx => ⟨deed, List.mem_cons_self, hx⟩

end CutShort

namespace Shared
variable [DecidableEq T] {p : Platform W D} {s : Shared T W D} {t : T} {pt : Point W D}

theorem step_closed (hc : s.handle.closed = true) (a : Action T W) :
    (s.step p a).2.handle.closed = true := by
  obtain ⟨t, deed, -, he, -⟩ | ⟨-, -, hh, -⟩ := s.step_cases p a
  · simp [he.closed, hc]
  · rw [hh, hc]

theorem step_thread (hp : s.point t = some pt) (a : Action T W) :
    (∃ deed g', (s.step p a).1 = some (t, deed) ∧
      pt.move p t s.toCommon = some (deed, (s.step p a).2.point t, g')) ∨
    (∀ deed, (s.step p a).1 ≠ some (t, deed)) ∧ (s.step p a).2.point t = some pt := by
  cases a with
  | call t' o =>
    right
    simp only [step, call]
    split
    · rename_i pt' hp' hs
      have ht : t' ≠ t := fun ht => by simp [ht, hp] at hp'
      simp [ht, ht.symm, goTo, hp]
    · simp [hp]
  | move t' =>
    by_cases ht : t' = t
    · subst ht
      simp only [step, move, hp, Option.bind_some]
      cases hm : pt.move p t' s.toCommon with
      | none => simp [hp]
      | some x =>
        obtain ⟨deed, pt', g'⟩ := x
        exact .inl ⟨deed, g', rfl, by simp [goTo]⟩
    · right
      simp only [step, move]
      split
      · simp [ht, Ne.symm ht, goTo, hp]
      · simp [hp]
  | outside w => exact .inr ⟨by simp [step], hp⟩

theorem cutShort (hc : s.handle.closed = true) (hp : s.point t = some pt)
    (as : List (Action T W)) : CutShort pt (course t (s.run p as).1) := by
  induction as generalizing s pt with
  | nil => exact .nil pt
  | cons a as ih =>
    have hc' := step_closed (p := p) hc a
    simp only [run]
    obtain ⟨deed, g', hd, hm⟩ | ⟨hd, hp'⟩ := step_thread (p := p) hp a
    · rw [hd]
      cases hp' : (s.step p a).2.point t with
      | none =>
        rw [hp'] at hm
        simpa [course, (answer_of_last hm).1] using CutShort.last hm
      | some pt' =>
        rw [hp'] at hm
        simpa [course, no_answer_of_next hm] using (ih hc' hp').next hc hm
    · have hcourse : course t ((s.step p a).1.toList ++ ((s.step p a).2.run p as).1) =
          course t ((s.step p a).2.run p as).1 := by
        rcases hx : (s.step p a).1 with _ | ⟨t', deed⟩
        · rfl
        · have ht : t' ≠ t := fun ht => hd deed (by rw [hx, ht])
          simp [course, ht]
      rw [hcourse]
      exact ih hc' hp'

end Shared

section Device
variable {past : List (T × Deed D)} {s : Shared T W D}

def Point.isAtDevice (pt : Point W D) : Bool := pt.device?.isSome

theorem Point.isAtDevice_iff {pt : Option (Point W D)} :
    pt.any Point.isAtDevice = true ↔ ∃ d, pt.bind Point.device? = some d := by
  cases pt <;> simp [isAtDevice, Option.isSome_iff_exists]

theorem Effect.at_device {t : T} {g g' : Common T W D} {pt pt' : Option (Point W D)}
    {deed : Deed D} (he : Effect t g pt deed pt' g') (hl : g.handle.live? = none)
    (hd : pt'.any Point.isAtDevice = true) : pt.any Point.isAtDevice = true := by
  obtain ⟨d, hd⟩ := Point.isAtDevice_iff.mp hd
  obtain hd | hd := he.reaches d hd
  · exact Point.isAtDevice_iff.mpr ⟨d, hd⟩
  · rw [hl] at hd
    cases hd

theorem at_device_of_begins {t : T} {g g' : Common T W D} {pt pt' : Option (Point W D)}
    {deed : Deed D} (he : Effect t g pt deed pt' g') (hd : deed.begins = true) :
    pt.any Point.isAtDevice = true := by
  obtain ⟨h, -⟩ := he.begins hd
  rcases pt with _ | pt
  · cases h
  · cases pt <;> first | rfl | cases h

theorem at_device_of_ends {t : T} {g g' : Common T W D} {pt pt' : Option (Point W D)}
    {deed : Deed D} (he : Effect t g pt deed pt' g') (hd : deed.ends = true) :
    pt.any Point.isAtDevice = true ∧ pt'.any Point.isAtDevice = false := by
  obtain ⟨h, h'⟩ := he.ends hd
  refine ⟨Point.isAtDevice_iff.mpr (Option.isSome_iff_exists.mp h), ?_⟩
  exact Bool.eq_false_iff.mpr fun h => by simpa [h'] using Point.isAtDevice_iff.mp h

theorem holds_of_place {place : Point W D → Bool}
    (hplace : ∀ pt, place pt = true → pt.holds = true) {pt : Option (Point W D)}
    (h : pt.any place = true) : pt.any Point.holds = true := by
  cases pt with
  | none => cases h
  | some pt => exact hplace pt h

variable [DecidableEq T] {p : Platform W D}

theorem once_more (place : Point W D → Bool) (does : Deed D → Bool)
    (hplace : ∀ pt, place pt = true → pt.holds = true)
    (hdoes : ∀ {t : T} {g g' : Common T W D} {pt pt' : Option (Point W D)} {deed : Deed D},
      Effect t g pt deed pt' g' → does deed = true →
        pt.any place = true ∧ pt'.any place = false)
    (hcomes : ∀ {t : T} {g g' : Common T W D} {pt pt' : Option (Point W D)} {deed : Deed D},
      Effect t g pt deed pt' g' → g.handle.live? = none → pt'.any place = true →
        pt.any place = true)
    (ho : Orderly past s) (hc : s.handle.closed = true) (as : List (Action T W)) :
    (s.run p as).1.countP (fun e => does e.2) ≤ 1 ∧
      ∀ e ∈ (s.run p as).1, does e.2 = true → (s.point e.1).any place = true := by
  induction as generalizing past s with
  | nil => simp [Shared.run]
  | cons a as ih =>
    obtain ⟨hcount, hfrom⟩ := ih (ho.step (p := p) a) (Shared.step_closed hc a)
    rw [Shared.run]
    obtain ⟨t, deed, hd, he, hothers⟩ | ⟨hd, hp, -⟩ := s.step_cases p a
    · have hback : ∀ t', ((s.step p a).2.point t').any place = true →
          (s.point t').any place = true := by
        intro t' h
        by_cases ht : t' = t
        · rw [ht] at h ⊢
          exact hcomes he (live?_of_closed hc) h
        · rwa [hothers t' ht] at h
      simp only [hd, Option.toList_some, List.singleton_append, List.countP_cons,
        List.forall_mem_cons]
      cases hx : does deed with
      | false =>
        exact ⟨by simpa using hcount, fun h => absurd h Bool.false_ne_true,
          fun e hm hx => hback e.1 (hfrom e hm hx)⟩
      | true =>
        obtain ⟨hthis, hleft⟩ := hdoes he hx
        have hnone : ∀ e ∈ ((s.step p a).2.run p as).1, does e.2 ≠ true := by
          intro e hm hx
          have h := hfrom e hm hx
          have ht : e.1 = t := ho.unique (holds_of_place hplace hthis)
            (holds_of_place hplace (hback e.1 h))
          rw [ht, hleft] at h
          cases h
        refine ⟨?_, fun _ => hthis, fun e hm hx => absurd hx (hnone e hm)⟩
        simp [List.countP_eq_zero.mpr hnone]
    · simp only [hd, Option.toList_none, List.nil_append]
      exact ⟨hcount, fun e hm hx => hp ▸ hfrom e hm hx⟩

theorem no_more (ho : Orderly past s) (hd : s.handle.device = none) (as : List (Action T W)) :
    ∀ e ∈ (s.run p as).1, e.2.begins = false ∧ e.2.ends = false := by
  induction as generalizing past s with
  | nil => simp [Shared.run]
  | cons a as ih =>
    have hnone (t : T) : (s.point t).any Point.isAtDevice ≠ true := by
      intro h
      obtain ⟨d, h⟩ := Point.isAtDevice_iff.mp h
      have h := ho.device t d h
      rw [hd] at h
      cases h
    rw [Shared.run]
    obtain ⟨t, deed, hx, he, -⟩ | ⟨hx, -, hh, -⟩ := s.step_cases p a
    · have hrest := ih (ho.step (p := p) a) (Orderly.taken_stays he hd)
      simp only [hx, Option.toList_some, List.singleton_append, List.forall_mem_cons]
      refine ⟨⟨?_, ?_⟩, hrest⟩
      · exact Bool.eq_false_iff.mpr fun h => hnone t (at_device_of_begins he h)
      · exact Bool.eq_false_iff.mpr fun h => hnone t (at_device_of_ends he h).1
    · simp only [hx, Option.toList_none, List.nil_append]
      exact ih (ho.step (p := p) a) (hh ▸ hd)

end Device

section Progress
variable {p : Platform W D} {t : T} {g : Common T W D} {pt : Point W D}

theorem move_of_holds (hh : pt.holds = true) : (pt.move p t g).isSome = true := by
  cases pt <;> first | rfl | cases hh

theorem move_of_free (hf : g.holder = none) : (pt.move p t g).isSome = true := by
  cases pt <;> simp [Point.move, hf]

theorem can_move [DecidableEq T] {past : List (T × Deed D)} {s : Shared T W D}
    (ho : Orderly past s) (hp : (s.point t).isSome = true) :
    ∃ t', (t' = t ∨ s.holder = some t') ∧ (s.step p (.move t')).1.isSome = true := by
  have hstep {t' : T} {pt : Point W D} (hp : s.point t' = some pt)
      (hm : (pt.move p t' s.toCommon).isSome = true) :
      (s.step p (.move t')).1.isSome = true := by
    obtain ⟨x, hm⟩ := Option.isSome_iff_exists.mp hm
    simp [Shared.step, Shared.move, hp, hm]
  cases hl : s.holder with
  | none =>
    obtain ⟨pt, hp⟩ := Option.isSome_iff_exists.mp hp
    exact ⟨t, .inl rfl, hstep hp (move_of_free hl)⟩
  | some t' =>
    have hh := (ho.guarded t').mpr hl
    cases hp' : s.point t' with
    | none => simp [hp'] at hh
    | some pt =>
      rw [hp'] at hh
      exact ⟨t', .inr rfl, hstep hp' (move_of_holds hh)⟩

end Progress

/-- Threads that share a handle may close it, all at once, while others use it. One close succeeds,
and the device is released once and while no call is going on. -/
theorem close_among_threads [DecidableEq T] (p : Platform W D) (path : String) (d : D)
    (interval : Duration) (w : W) (before after : List (Action T W)) :
    let (past, s) := (Shared.opened path d interval w).run p before
    let (later, _) := s.run p after
    (past.countP (·.2.wins) ≤ 1 ∧ past.countP (·.2.releases) ≤ 1 ∧
      ((∃ e ∈ past, e.2.asksClose = true) → (∀ t, s.point t = none) →
        past.countP (·.2.wins) = 1 ∧ past.countP (·.2.releases) = 1)) ∧
    (∀ a t d, (s.step p a).1 = some (t, .released (some d)) →
      ∀ t' e d', s.point t' ≠ some (.calling e d')) ∧
    (∀ t, (s.point t).isSome = true →
      ∃ t', (t' = t ∨ s.holder = some t') ∧ (s.step p (.move t')).1.isSome = true) ∧
    ((∃ e ∈ past, e.2.swaps = true) →
      later.countP (·.2.begins) ≤ 1 ∧ later.countP (·.2.ends) ≤ 1 ∧
      (∀ e ∈ later, e.2.begins = true → (s.point e.1).any Point.isReady = true) ∧
      (∀ e ∈ later, e.2.ends = true → (s.point e.1).any Point.isAtDevice = true) ∧
      ∀ t pt, s.point t = some pt → CutShort pt (course t later)) ∧
    ((∃ e ∈ past, e.2.takes = true ∨ e.2.releases = true) →
      ∀ e ∈ later, e.2.begins = false ∧ e.2.ends = false) := by
  have ho := (Orderly.opened (T := T) path d interval w).run (p := p) before
  rw [List.nil_append] at ho
  generalize (Shared.opened path d interval w).run p before = x at ho
  obtain ⟨past, s⟩ := x
  change Orderly past s at ho
  simp only
  refine ⟨⟨ho.wins_le_one, ho.releases_le_one, ho.closed_once⟩, ?alone, fun t => can_move ho,
    ?swapped, fun hd => no_more ho (ho.gone hd) after⟩
  case alone =>
    intro a t d hd t' e d' hp
    have h := ho.released_alone hd t'
    rw [hp] at h
    cases h
  case swapped =>
    intro hs
    have hc := ho.swapped hs
    have hbegins := once_more (p := p) Point.isReady Deed.begins
      (fun pt h => by cases pt <;> first | rfl | cases h) (fun he => he.begins)
      (fun he hl h => by simpa [hl] using he.readies h) ho hc after
    have hends := once_more (p := p) Point.isAtDevice Deed.ends
      (fun pt h => by cases pt <;> first | rfl | cases h) at_device_of_ends Effect.at_device ho hc
      after
    exact ⟨hbegins.1, hends.1, hbegins.2, hends.2, fun t pt hp => Shared.cutShort hc hp after⟩

/-- A read waits on its device when another thread closes the handle. -/
example :
    let reading := List.replicate 7 (.move false)
    let closing := [.call true .close, .move true, .move true]
    let bus := VirtualBus.attach { vendorId := 1, productId := 2 } {}
    let (deeds, _) := (Shared.opened "virtual:0" 0 0 { state := bus }).run VirtualBus.platform
      (.call false (.read 0 8 none) :: reading ++ closing ++ List.replicate 9 (.move false) ++
        List.replicate 5 (.move true))
    deeds.filterMap (fun e => e.2.answer?.map (e.1, ·)) = [(false, refusal), (true, .done)] := by
  decide

end HidAccess.Handle
