import HidAccess.Proofs.Handle.Threads
import Mathlib.Tactic.ByContra

/-! Whatever the threads do, one of them at a time is past the lock, only it reaches the device, at
most one close succeeds, and the device is released at most once and not during a call. The lock,
the flag and the device are followed through one step of any thread; the rest is by induction on the
steps taken. -/

namespace HidAccess.Handle
variable {T W D : Type}

/-- Something of which there is one: either a thread has it or it is somewhere else. -/
def Once (elsewhere : Nat) (has : T → Bool) : Prop :=
  elsewhere = 1 ∧ (∀ t, has t = false) ∨ elsewhere = 0 ∧ ∃ t₀, ∀ t, has t = true ↔ t = t₀

namespace Once
variable {n n' : Nat} {has has' : T → Bool} {t : T}

theorem le_one (h : Once n has) : n ≤ 1 := by
  obtain ⟨rfl, -⟩ | ⟨rfl, -⟩ := h
  · exact Nat.le_refl 1
  · exact Nat.zero_le 1

theorem eq_one (h : Once n has) (hn : ∀ t, has t = false) : n = 1 := by
  obtain ⟨rfl, -⟩ | ⟨-, t₀, ht⟩ := h
  · rfl
  · simp [hn] at ht

theorem of_others (hothers : ∀ t', t' ≠ t → has t' = false) (hn : n + (has t).toNat = 1) :
    Once n has := by
  cases ht : has t with
  | false =>
    refine .inl ⟨by simpa [ht] using hn, fun t' => ?_⟩
    by_cases h : t' = t
    · exact h ▸ ht
    · exact hothers t' h
  | true =>
    refine .inr ⟨by simpa [ht] using hn, t, fun t' => ⟨fun h => ?_, fun h => h ▸ ht⟩⟩
    by_contra hne
    simp [hothers t' hne] at h

theorem step (h : Once n has) (hothers : ∀ t', t' ≠ t → has' t' = has t')
    (hn : n' + (has' t).toNat = n + (has t).toNat) : Once n' has' := by
  obtain ⟨rfl, hnone⟩ | ⟨rfl, t₀, ht₀⟩ := h
  · exact of_others (fun t' ht => (hothers t' ht).trans (hnone t')) (by simpa [hnone] using hn)
  by_cases h : t₀ = t
  · subst h
    have hone : n' + (has' t₀).toNat = 1 := by simpa [(ht₀ t₀).mpr rfl] using hn
    refine of_others (fun t' ht => ?_) hone
    rw [hothers t' ht]
    exact Bool.eq_false_iff.mpr fun h => ht ((ht₀ t').mp h)
  · have hfalse : has t = false := Bool.eq_false_iff.mpr fun ht => h ((ht₀ t).mp ht).symm
    obtain ⟨rfl, hb⟩ : n' = 0 ∧ has' t = false := by simpa [hfalse] using hn
    refine .inr ⟨rfl, t₀, fun t' => ?_⟩
    by_cases ht : t' = t
    · subst ht
      simp [hb, Ne.symm h]
    · rw [hothers t' ht, ht₀]

end Once

namespace Point

def holds : Point W D → Bool
  | .locked _ | .ready _ _ | .calling _ _ | .retiring _ | .leaving _ | .taking | .taken _ => true
  | _ => false

def device? : Point W D → Option D
  | .ready _ d | .calling _ d => some d
  | _ => none

def isReady : Point W D → Bool
  | .ready _ _ => true
  | _ => false

def isClosing : Point W D → Bool
  | .closing => true
  | _ => false

def hasWon : Point W D → Bool
  | .awaiting | .taking | .taken _ | .releasing _ | .closed (.ok _) => true
  | _ => false

def hasTaken : Point W D → Bool
  | .taken _ | .releasing _ | .closed (.ok _) => true
  | _ => false

def carries : Point W D → Bool
  | .taken d | .releasing d => d.isSome
  | _ => false

end Point

namespace Deed

def asksClose : Deed D → Bool
  | .called .close => true
  | _ => false

def swaps : Deed D → Bool
  | .swapped _ => true
  | _ => false

def takes : Deed D → Bool
  | .took _ => true
  | _ => false

def wins : Deed D → Bool
  | .closed (.ok _) => true
  | _ => false

def releases : Deed D → Bool
  | .released d => d.isSome
  | _ => false

def begins : Deed D → Bool
  | .began _ => true
  | _ => false

def ends : Deed D → Bool
  | .ended _ => true
  | _ => false

end Deed

structure Effect (t : T) (g : Common T W D) (pt : Option (Point W D)) (deed : Deed D)
    (pt' : Option (Point W D)) (g' : Common T W D) : Prop where
  lock : g'.holder = g.holder ∧ pt'.any Point.holds = pt.any Point.holds ∨
    g.holder = none ∧ g'.holder = some t ∧ pt'.any Point.holds = true ∨
    g'.holder = none ∧ pt.any Point.holds = true ∧ pt'.any Point.holds = false
  device : g'.handle.device = g.handle.device ∨
    g'.handle.device = none ∧ pt.any Point.holds = true ∧ pt'.bind Point.device? = none
  reaches : ∀ d, pt'.bind Point.device? = some d →
    pt.bind Point.device? = some d ∨ g.handle.live? = some d
  readies : pt'.any Point.isReady = true → (g.handle.live?).isSome = true
  begins : deed.begins = true → pt.any Point.isReady = true ∧ pt'.any Point.isReady = false
  ends : deed.ends = true →
    (pt.bind Point.device?).isSome = true ∧ pt'.bind Point.device? = none
  parts : deed.releases = true → pt.bind Point.device? = none ∧
    (pt.any Point.holds = true ∨ pt.any Point.hasTaken = true)
  closed : g'.handle.closed = (g.handle.closed || deed.swaps)
  asks : deed.asksClose = true → pt'.any Point.isClosing = true
  swaps : pt.any Point.isClosing = true → g'.handle.closed = true
  takes : deed.takes = true ∨ deed.wins = true ∨ pt'.any Point.hasTaken = true →
    g'.handle.device = none ∨ pt.any Point.hasTaken = true
  wins : (!g'.handle.closed).toNat + deed.wins.toNat + (pt'.any Point.hasWon).toNat =
    (!g.handle.closed).toNat + (pt.any Point.hasWon).toNat
  releases : g'.handle.device.isSome.toNat + deed.releases.toNat +
    (pt'.any Point.carries).toNat = g.handle.device.isSome.toNat + (pt.any Point.carries).toNat

section Effect
attribute [local simp] Point.holds Point.device? Point.isReady Point.isClosing Point.hasWon
  Point.hasTaken Point.carries Deed.asksClose Deed.swaps Deed.takes Deed.wins Deed.releases
  Deed.begins Deed.ends

variable {p : Platform W D} {t : T} {g g' : Common T W D} {pt : Point W D} {deed : Deed D}
  {pt' : Option (Point W D)}

theorem move_effect (hm : pt.move p t g = some (deed, pt', g')) :
    Effect t g (some pt) deed pt' g' := by
  cases pt with
  | leaving sequel =>
    cases sequel <;> cases hm <;> constructor <;> simp_all [Sequel.next]
  | closed r =>
    cases r <;> cases hm <;> constructor <;> simp_all
  | _ =>
    simp only [Point.move] at hm
    (repeat' split at hm) <;> cases hm <;> constructor <;> simp_all [retire]

theorem start_effect {o : Operation} {pt : Point W D} (hs : o.start? p = some pt) (t : T)
    (g : Common T W D) : Effect t g none (.called o) (some pt) g := by
  cases o with
  | write report =>
    cases hs
    cases refuseEmpty report _ <;> constructor <;> simp [refusedOr, transferring]
  | sendFeature report =>
    cases hs
    cases refuseEmpty report _ <;> constructor <;> simp [refusedOr, transferring]
  | getFeature reportId length =>
    cases hs
    by_cases hz : length = 0 <;> cases bufferCrash? length <;> constructor <;> simp [hz, transferring]
  | drop => cases hs
  | _ =>
    cases hs
    constructor <;> simp [transferring]

end Effect

namespace Shared
variable [DecidableEq T] {p : Platform W D}

theorem step_cases (p : Platform W D) (s : Shared T W D) (a : Action T W) :
    (∃ t deed, (s.step p a).1 = some (t, deed) ∧
      Effect t s.toCommon (s.point t) deed ((s.step p a).2.point t) (s.step p a).2.toCommon ∧
      ∀ t', t' ≠ t → (s.step p a).2.point t' = s.point t') ∨
    (s.step p a).1 = none ∧ (s.step p a).2.point = s.point ∧
      (s.step p a).2.handle = s.handle ∧ (s.step p a).2.holder = s.holder := by
  cases a with
  | call t o =>
    simp only [step, call]
    split
    · rename_i pt hp hs
      refine .inl ⟨t, .called o, rfl, ?_, fun t' ht => by simp [goTo, ht]⟩
      simpa [goTo, hp] using start_effect hs t s.toCommon
    · exact .inr ⟨rfl, rfl, rfl, rfl⟩
  | move t =>
    simp only [step, move]
    split
    · rename_i deed pt' g hm
      obtain ⟨pt, hp, hm⟩ := Option.bind_eq_some_iff.mp hm
      refine .inl ⟨t, deed, rfl, ?_, fun t' ht => by simp [goTo, ht]⟩
      simpa [goTo, hp] using move_effect hm
    · exact .inr ⟨rfl, rfl, rfl, rfl⟩
  | outside world => exact .inr ⟨rfl, rfl, rfl, rfl⟩

end Shared

/-- What holds of the threads after the steps in `past`. -/
structure Orderly (past : List (T × Deed D)) (s : Shared T W D) : Prop where
  guarded : ∀ t, (s.point t).any Point.holds = true ↔ s.holder = some t
  device : ∀ t d, (s.point t).bind Point.device? = some d → s.handle.device = some d
  asked : (∃ e ∈ past, e.2.asksClose = true) →
    s.handle.closed = true ∨ ∃ t, (s.point t).any Point.isClosing = true
  swapped : (∃ e ∈ past, e.2.swaps = true) → s.handle.closed = true
  taken : (∃ e ∈ past, e.2.takes = true ∨ e.2.wins = true) ∨
    (∃ t, (s.point t).any Point.hasTaken = true) → s.handle.device = none
  winner : Once ((!s.handle.closed).toNat + past.countP (·.2.wins))
    fun t => (s.point t).any Point.hasWon
  released : Once (s.handle.device.isSome.toNat + past.countP (·.2.releases))
    fun t => (s.point t).any Point.carries

theorem Point.holds_of_device? {pt : Option (Point W D)} {d : D}
    (hd : pt.bind Point.device? = some d) : pt.any Point.holds = true := by
  obtain ⟨pt, rfl, hd⟩ := Option.bind_eq_some_iff.mp hd
  cases pt <;> first | rfl | cases hd

namespace Orderly
variable {p : Platform W D} {past : List (T × Deed D)} {s s' : Shared T W D}

theorem opened (path : String) (d : D) (interval : Duration) (w : W) :
    Orderly (T := T) [] (Shared.opened path d interval w) where
  guarded t := by simp [Shared.opened]
  device t d' := by simp [Shared.opened]
  asked := by simp
  swapped := by simp
  taken := by simp [Shared.opened]
  winner := .inl ⟨rfl, fun _ => rfl⟩
  released := .inl ⟨rfl, fun _ => rfl⟩

theorem unique (ho : Orderly past s) {t t' : T} (ht : (s.point t).any Point.holds = true)
    (ht' : (s.point t').any Point.holds = true) : t' = t := by
  have h := ((ho.guarded t).mp ht).symm.trans ((ho.guarded t').mp ht')
  exact (Option.some.inj h).symm

theorem wins_le_one (ho : Orderly past s) : past.countP (·.2.wins) ≤ 1 :=
  Nat.le_trans (Nat.le_add_left _ _) ho.winner.le_one

theorem releases_le_one (ho : Orderly past s) : past.countP (·.2.releases) ≤ 1 :=
  Nat.le_trans (Nat.le_add_left _ _) ho.released.le_one

theorem closed_once (ho : Orderly past s) (hasked : ∃ e ∈ past, e.2.asksClose = true)
    (hidle : ∀ t, s.point t = none) :
    past.countP (·.2.wins) = 1 ∧ past.countP (·.2.releases) = 1 := by
  have hc : s.handle.closed = true := (ho.asked hasked).resolve_right (by simp [hidle])
  have hwins : past.countP (·.2.wins) = 1 := by
    simpa [hc] using ho.winner.eq_one (by simp [hidle])
  obtain ⟨e, hm, hw⟩ := List.countP_pos_iff.mp (show 0 < past.countP (·.2.wins) by omega)
  have hreleases : past.countP (·.2.releases) = 1 := by
    simpa [ho.taken (.inl ⟨e, hm, .inr hw⟩)] using ho.released.eq_one (by simp [hidle])
  exact ⟨hwins, hreleases⟩

theorem gone (ho : Orderly past s)
    (hd : ∃ e ∈ past, e.2.takes = true ∨ e.2.releases = true) : s.handle.device = none := by
  obtain ⟨e, hm, ht | hr⟩ := hd
  · exact ho.taken (.inl ⟨e, hm, .inl ht⟩)
  · have hpos : 0 < past.countP (·.2.releases) := List.countP_pos_iff.mpr ⟨e, hm, hr⟩
    have hle := ho.released.le_one
    have hnone : s.handle.device.isSome.toNat = 0 := by omega
    simpa using hnone

section Effect
variable {t : T} {deed : Deed D}
  (he : Effect t s.toCommon (s.point t) deed (s'.point t) s'.toCommon)
  (hothers : ∀ t', t' ≠ t → s'.point t' = s.point t')
include he hothers

theorem guarded_next (ho : Orderly past s) (t' : T) :
    (s'.point t').any Point.holds = true ↔ s'.holder = some t' := by
  have hg := ho.guarded t'
  by_cases h : t' = t
  · subst h
    obtain ⟨hh, hl⟩ | ⟨-, hh, hl⟩ | ⟨hh, -, hl⟩ := he.lock <;> simp [hh, hl, hg]
  rw [hothers t' h, hg]
  obtain ⟨hh, -⟩ | ⟨hn, hh, -⟩ | ⟨hh, ht, -⟩ := he.lock
  · rw [hh]
  · simp [hn, hh, Ne.symm h]
  · simp [(ho.guarded t).mp ht, hh, Ne.symm h]

theorem device_next (ho : Orderly past s) (t' : T) (d : D)
    (hd : (s'.point t').bind Point.device? = some d) : s'.handle.device = some d := by
  by_cases h : t' = t
  · subst h
    have hs : s.handle.device = some d := (he.reaches d hd).elim (ho.device t' d)
      fun hl => (live?_eq_some.mp hl).2
    obtain hsame | ⟨-, -, hnone⟩ := he.device
    · rw [hsame, hs]
    · rw [hnone] at hd
      cases hd
  · rw [hothers t' h] at hd
    obtain hsame | ⟨-, ht, -⟩ := he.device
    · rw [hsame, ho.device t' d hd]
    · exact absurd (ho.unique ht (Point.holds_of_device? hd)) h

theorem asked_next (ho : Orderly past s)
    (ha : ∃ e ∈ past ++ [(t, deed)], e.2.asksClose = true) :
    s'.handle.closed = true ∨ ∃ t', (s'.point t').any Point.isClosing = true := by
  obtain ⟨e, hm, ha⟩ := ha
  rcases List.mem_append.mp hm with hm | hm
  · obtain hc | ⟨t', ht'⟩ := ho.asked ⟨e, hm, ha⟩
    · exact .inl (by simp [he.closed, hc])
    · by_cases h : t' = t
      · exact .inl (he.swaps (h ▸ ht'))
      · exact .inr ⟨t', by rwa [hothers t' h]⟩
  · rw [List.mem_singleton] at hm
    subst hm
    exact .inr ⟨t, he.asks ha⟩

omit hothers in
theorem swapped_next (ho : Orderly past s)
    (hs : ∃ e ∈ past ++ [(t, deed)], e.2.swaps = true) : s'.handle.closed = true := by
  obtain ⟨e, hm, hs⟩ := hs
  rw [he.closed]
  rcases List.mem_append.mp hm with hm | hm
  · simp [ho.swapped ⟨e, hm, hs⟩]
  · rw [List.mem_singleton] at hm
    subst hm
    simp [hs]

omit hothers in
theorem taken_stays (hd : s.handle.device = none) : s'.handle.device = none := by
  obtain hsame | ⟨hnone, -⟩ := he.device
  · rw [hsame, hd]
  · exact hnone

theorem taken_next (ho : Orderly past s)
    (ht : (∃ e ∈ past ++ [(t, deed)], e.2.takes = true ∨ e.2.wins = true) ∨
      (∃ t', (s'.point t').any Point.hasTaken = true)) : s'.handle.device = none := by
  have hnow (h : deed.takes = true ∨ deed.wins = true ∨
      (s'.point t).any Point.hasTaken = true) : s'.handle.device = none :=
    (he.takes h).elim id fun h => taken_stays he (ho.taken (.inr ⟨t, h⟩))
  obtain ⟨e, hm, hd⟩ | ⟨t', ht'⟩ := ht
  · rcases List.mem_append.mp hm with hm | hm
    · exact taken_stays he (ho.taken (.inl ⟨e, hm, hd⟩))
    · rw [List.mem_singleton] at hm
      subst hm
      exact hnow (hd.imp_right .inl)
  · by_cases h : t' = t
    · subst h
      exact hnow (.inr (.inr ht'))
    · rw [hothers t' h] at ht'
      exact taken_stays he (ho.taken (.inr ⟨t', ht'⟩))

theorem next (ho : Orderly past s) : Orderly (past ++ [(t, deed)]) s' where
  guarded := guarded_next he hothers ho
  device := device_next he hothers ho
  asked := asked_next he hothers ho
  swapped := swapped_next he ho
  taken := taken_next he hothers ho
  winner := by
    refine ho.winner.step (t := t) (fun t' ht => by rw [hothers t' ht]) ?_
    have hw := he.wins
    simp only [List.countP_append, List.countP_singleton]
    cases hd : deed.wins <;> simp [hd] at hw ⊢ <;> omega
  released := by
    refine ho.released.step (t := t) (fun t' ht => by rw [hothers t' ht]) ?_
    have hr := he.releases
    simp only [List.countP_append, List.countP_singleton]
    cases hd : deed.releases <;> simp [hd] at hr ⊢ <;> omega

end Effect

variable [DecidableEq T]

theorem step (ho : Orderly past s) (a : Action T W) :
    Orderly (past ++ (s.step p a).1.toList) (s.step p a).2 := by
  obtain ⟨t, deed, hd, he, hothers⟩ | ⟨hd, hp, hh, hl⟩ := s.step_cases p a
  · rw [hd]
    exact next he hothers ho
  · rw [hd, Option.toList_none, List.append_nil]
    generalize (s.step p a).2 = s' at hp hh hl
    obtain ⟨⟨h', l', w'⟩, pt'⟩ := s'
    cases hp
    cases hh
    cases hl
    exact ⟨ho.guarded, ho.device, ho.asked, ho.swapped, ho.taken, ho.winner, ho.released⟩

theorem run (ho : Orderly past s) (as : List (Action T W)) :
    Orderly (past ++ (s.run p as).1) (s.run p as).2 := by
  induction as generalizing past s with
  | nil => simpa [Shared.run] using ho
  | cons a as ih =>
    have h := ih (ho.step (p := p) a)
    rwa [List.append_assoc] at h

/-- Nobody is at the device when it is released. -/
theorem released_alone (ho : Orderly past s) {a : Action T W} {t : T} {d : D}
    (hd : (s.step p a).1 = some (t, .released (some d))) (t' : T) :
    (s.point t').bind Point.device? = none := by
  obtain ⟨t₀, deed, hd', he, -⟩ | ⟨hd', -⟩ := s.step_cases p a
  · rw [hd] at hd'
    cases hd'
    obtain ⟨hnone, hwhere⟩ := he.parts rfl
    by_contra hat
    obtain ⟨d', hat⟩ := Option.ne_none_iff_exists'.mp hat
    obtain hholds | htaken := hwhere
    · rw [ho.unique hholds (Point.holds_of_device? hat), hnone] at hat
      cases hat
    · have hdev := ho.device t' d' hat
      rw [ho.taken (.inr ⟨t, htaken⟩)] at hdev
      cases hdev
  · rw [hd] at hd'
    cases hd'

end Orderly

end HidAccess.Handle
