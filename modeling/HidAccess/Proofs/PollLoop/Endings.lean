import HidAccess.PollLoop.Scripted

/-! How a loop ends. The attempts are made one after the other from number 0 on, and what ends the loop
is the first of a raised flag, a used up budget, a value and an error, in the order in which a round
looks for them. -/

namespace HidAccess

def Attempts.noted {S α : Type} (a : Attempts S α) : Attempts (S × List Nat) α where
  stopped s := a.stopped s.1
  attempt n s := ((a.attempt n s.1).1, (a.attempt n s.1).2, s.2 ++ [n])
  pause d s := (a.pause d s.1, s.2)

namespace PollLoop
variable {S α : Type} (p : PollLoop) (a : Attempts S α) (s : S)

def stateAt : Nat → S
  | 0 => s
  | n + 1 => a.pause p.interval (a.attempt n (stateAt n)).2

def brought (n : Nat) : Except AccessError (Option α) := (a.attempt n (p.stateAt a s n)).1

def isStoppedAt (n : Nat) : Bool := a.stopped (p.stateAt a s n)

/-- The first `n` attempts are made in vain, and the flag is down before each. -/
def InVain (n : Nat) : Prop := ∀ i < n, p.isStoppedAt a s i = false ∧ p.brought a s i = .ok none

def calls (fuel : Nat) : List Nat := (p.run a.noted fuel (s, [])).2.2

/-- An end of the loop after so many attempts. The budget is looked at before an attempt and after
it, so it counts before the flag except at the start. -/
inductive Ending : Nat → Except AccessError (PollOutcome α) → Prop
  | stopped {n : Nat} : p.InVain a s n → n = 0 ∨ p.isSpent n = false → p.isStoppedAt a s n = true →
      Ending n (.ok (.stopped n))
  | exhausted {n : Nat} : p.InVain a s n → (n = 0 → p.isStoppedAt a s 0 = false) →
      p.budget = some n → Ending n (.ok (.exhausted n))
  | completed {n : Nat} {value : α} : p.InVain a s n → p.isSpent n = false →
      p.isStoppedAt a s n = false → p.brought a s n = .ok (some value) →
      Ending (n + 1) (.ok (.completed value (n + 1)))
  | failed {n : Nat} {e : AccessError} : p.InVain a s n → p.isSpent n = false →
      p.isStoppedAt a s n = false → p.brought a s n = .error e → Ending (n + 1) (.error e)

variable {p a s}

theorem isSpent_eq_false_iff {n : Nat} : p.isSpent n = false ↔ ∀ b ∈ p.budget, n < b := by
  cases hb : p.budget <;> simp [isSpent, hb]

theorem inVain_succ {n : Nat} : p.InVain a s (n + 1) ↔
    p.InVain a s n ∧ p.isStoppedAt a s n = false ∧ p.brought a s n = .ok none :=
  Nat.forall_lt_succ_right

theorem budget_eq_of_isSpent {n : Nat} (hn : p.isSpent n = true)
    (hbefore : ∀ m < n, p.isSpent m = false) : p.budget = some n := by
  cases hb : p.budget with
  | none => simp [isSpent, hb] at hn
  | some b =>
    have hle : b ≤ n := by simpa [isSpent, hb] using hn
    have hge : ¬ b < n := fun h => by simpa [isSpent, hb] using hbefore b h
    exact congrArg some (by omega)

theorem isSpent_mono {m n : Nat} (hm : m ≤ n) (hn : p.isSpent n = false) : p.isSpent m = false := by
  rw [isSpent_eq_false_iff] at hn ⊢
  exact fun b hb => Nat.lt_of_le_of_lt hm (hn b hb)

theorem runFrom_noted (fuel n : Nat) (s : S) (made : List Nat) :
    (p.runFrom a.noted fuel n (s, made)).1 = (p.runFrom a fuel n s).1 := by
  induction fuel generalizing n s made with
  | zero => rfl
  | succ fuel ih =>
    simp only [runFrom, show a.noted.stopped (s, made) = a.stopped s from rfl,
      show a.noted.attempt n (s, made) =
        ((a.attempt n s).1, (a.attempt n s).2, made ++ [n]) from rfl]
    by_cases hstop : a.stopped s
    · rw [if_pos hstop, if_pos hstop]
    rw [if_neg hstop, if_neg hstop]
    by_cases hspent : p.isSpent n
    · rw [if_pos hspent, if_pos hspent]
    rw [if_neg hspent, if_neg hspent]
    rcases a.attempt n s with ⟨_ | _ | value, s'⟩
    · rfl
    · simp only
      by_cases hnext : p.isSpent (n + 1)
      · rw [if_pos hnext, if_pos hnext]
      · rw [if_neg hnext, if_neg hnext]
        exact ih (n + 1) _ _
    · rfl

theorem runFrom_round (fuel n : Nat) :
    p.runFrom a.noted (fuel + 1) n (p.stateAt a s n, List.range n) =
      if p.isStoppedAt a s n then (some (.ok (.stopped n)), p.stateAt a s n, List.range n)
      else if p.isSpent n then (some (.ok (.exhausted n)), p.stateAt a s n, List.range n)
      else
        let made := ((a.attempt n (p.stateAt a s n)).2, List.range (n + 1))
        match p.brought a s n with
        | .error e => (some (.error e), made)
        | .ok (some value) => (some (.ok (.completed value (n + 1))), made)
        | .ok none =>
          if p.isSpent (n + 1) then (some (.ok (.exhausted (n + 1))), made)
          else p.runFrom a.noted fuel (n + 1) (p.stateAt a s (n + 1), List.range (n + 1)) := by
  rw [runFrom, show a.noted.attempt n (p.stateAt a s n, List.range n) =
    (p.brought a s n, (a.attempt n (p.stateAt a s n)).2, List.range (n + 1)) by
      rw [List.range_succ]; rfl]
  rcases p.brought a s n with _ | _ | value <;> rfl

theorem run_noted_of_inVain {n : Nat} (hv : p.InVain a s n) (hw : n = 0 ∨ p.isSpent n = false)
    (fuel : Nat) : p.run a.noted (n + fuel) (s, []) =
      p.runFrom a.noted fuel n (p.stateAt a s n, List.range n) := by
  induction n generalizing fuel with
  | zero => rw [Nat.zero_add]; rfl
  | succ n ih =>
    obtain ⟨hv, hstop, hnone⟩ := inVain_succ.mp hv
    have hw : p.isSpent (n + 1) = false := hw.resolve_left (Nat.succ_ne_zero n)
    have hn : p.isSpent n = false := isSpent_mono (Nat.le_succ n) hw
    rw [Nat.add_right_comm, Nat.add_assoc, ih hv (.inr hn), runFrom_round, hstop, hn, hnone]
    simp [hw]

theorem runFrom_noted_cases (fuel : Nat) {n : Nat} (hv : p.InVain a s n)
    (hw : n = 0 ∨ p.isSpent n = false) :
    let x := p.runFrom a.noted fuel n (p.stateAt a s n, List.range n)
    (x.1 = none ∧ x.2.2 = List.range (n + fuel) ∧ p.InVain a s (n + fuel) ∧
      (n + fuel = 0 ∨ p.isSpent (n + fuel) = false)) ∨
    ∃ m r, x.1 = some r ∧ x.2.2 = List.range m ∧ p.Ending a s m r := by
  induction fuel generalizing n with
  | zero => exact .inl ⟨rfl, rfl, hv, hw⟩
  | succ fuel ih =>
    have hbefore : ∀ m < n, p.isSpent m = false := by
      intro m hm
      exact isSpent_mono (Nat.le_of_lt hm) (hw.resolve_left (Nat.ne_zero_of_lt hm))
    rw [runFrom_round]
    cases hstop : p.isStoppedAt a s n with
    | true => exact .inr ⟨n, _, rfl, rfl, .stopped hv hw hstop⟩
    | false =>
      cases hspent : p.isSpent n with
      | true =>
        have hbudget := budget_eq_of_isSpent hspent hbefore
        exact .inr ⟨n, _, rfl, rfl, .exhausted hv (fun h => h ▸ hstop) hbudget⟩
      | false =>
        cases hgot : p.brought a s n with
        | error e => exact .inr ⟨n + 1, _, rfl, rfl, .failed hv hspent hstop hgot⟩
        | ok got =>
          cases got with
          | some value => exact .inr ⟨n + 1, _, rfl, rfl, .completed hv hspent hstop hgot⟩
          | none =>
            have hv : p.InVain a s (n + 1) := inVain_succ.mpr ⟨hv, hstop, hgot⟩
            cases hnext : p.isSpent (n + 1) with
            | true =>
              have hbudget := budget_eq_of_isSpent hnext fun m hm =>
                isSpent_mono (Nat.le_of_lt_succ hm) hspent
              exact .inr ⟨n + 1, _, rfl, rfl, .exhausted hv (by simp) hbudget⟩
            | false =>
              simpa [Nat.add_assoc, Nat.add_comm 1 fuel] using ih hv (.inr hnext)

theorem Ending.reached {m : Nat} {r : Except AccessError (PollOutcome α)} (h : p.Ending a s m r) :
    ∃ fuel, (p.run a.noted fuel (s, [])).1 = some r ∧
      (p.run a.noted fuel (s, [])).2.2 = List.range m := by
  cases h with
  | stopped hv hw hstop =>
    refine ⟨m + 1, ?_⟩
    rw [run_noted_of_inVain hv hw, runFrom_round, hstop]
    exact ⟨rfl, rfl⟩
  | exhausted hv hstop hbudget =>
    have hspent : p.isSpent m = true := by simp [isSpent, hbudget]
    cases m with
    | zero =>
      refine ⟨0 + 1, ?_⟩
      rw [run_noted_of_inVain hv (.inl rfl), runFrom_round, hstop rfl, hspent]
      exact ⟨rfl, rfl⟩
    | succ n =>
      -- The budget is found used up at the end of the round before.
      obtain ⟨hv, hstop, hnone⟩ := inVain_succ.mp hv
      have hn : p.isSpent n = false := by simp [isSpent, hbudget]
      refine ⟨n + 1, ?_⟩
      rw [run_noted_of_inVain hv (.inr hn), runFrom_round, hstop, hn, hnone, hspent]
      exact ⟨rfl, rfl⟩
  | @completed n value hv hw hstop hgot =>
    refine ⟨n + 1, ?_⟩
    rw [run_noted_of_inVain hv (.inr hw), runFrom_round, hstop, hw, hgot]
    exact ⟨rfl, rfl⟩
  | @failed n e hv hw hstop hgot =>
    refine ⟨n + 1, ?_⟩
    rw [run_noted_of_inVain hv (.inr hw), runFrom_round, hstop, hw, hgot]
    exact ⟨rfl, rfl⟩

variable (p a s) in
/-- With enough fuel the loop ends so, after attempts `0` to `m - 1`. -/
def Ends (m : Nat) (r : Except AccessError (PollOutcome α)) : Prop :=
  ∃ fuel, (p.run a fuel s).1 = some r ∧ p.calls a s fuel = List.range m

theorem run_cases (fuel : Nat) :
    ((p.run a fuel s).1 = none ∧ p.calls a s fuel = List.range fuel ∧ p.InVain a s fuel ∧
      (fuel = 0 ∨ p.isSpent fuel = false)) ∨
    ∃ m r, (p.run a fuel s).1 = some r ∧ p.calls a s fuel = List.range m ∧ p.Ending a s m r := by
  have hv : p.InVain a s 0 := fun i hi => absurd hi (Nat.not_lt_zero i)
  have h := runFrom_noted_cases fuel hv (.inl rfl)
  rw [Nat.zero_add] at h
  have hnoted : (p.run a.noted fuel (s, [])).1 = (p.run a fuel s).1 := runFrom_noted fuel 0 s []
  rwa [← hnoted]

theorem ends_iff {m : Nat} {r : Except AccessError (PollOutcome α)} :
    p.Ends a s m r ↔ p.Ending a s m r := by
  constructor
  · rintro ⟨fuel, hr, hcalls⟩
    rcases run_cases (p := p) (a := a) (s := s) fuel with ⟨hnone, -⟩ | ⟨m', r', hr', hcalls', h⟩
    · simp [hr] at hnone
    · obtain rfl : r = r' := Option.some.inj (hr.symm.trans hr')
      obtain rfl : m = m' := by simpa using congrArg List.length (hcalls.symm.trans hcalls')
      exact h
  · intro h
    obtain ⟨fuel, hr, hcalls⟩ := h.reached
    exact ⟨fuel, (runFrom_noted fuel 0 s []).symm.trans hr, hcalls⟩

namespace Ending
variable {m k : Nat}

theorem le_of_budget {b : Nat} {r : Except AccessError (PollOutcome α)} (h : p.Ending a s m r)
    (hb : p.budget = some b) : m ≤ b := by
  have hlt {n : Nat} (hn : p.isSpent n = false) : n < b := isSpent_eq_false_iff.mp hn b hb
  cases h with
  | stopped hv hw hstop =>
    rcases hw with rfl | hw
    · exact Nat.zero_le b
    · exact Nat.le_of_lt (hlt hw)
  | exhausted hv hstop hbudget => exact Nat.le_of_eq (Option.some.inj (hbudget.symm.trans hb))
  | completed hv hw hstop hgot => exact hlt hw
  | failed hv hw hstop hgot => exact hlt hw

theorem stopped_iff : p.Ending a s m (.ok (.stopped k)) ↔
    m = k ∧ p.isStoppedAt a s k = true ∧ p.InVain a s k ∧ (k = 0 ∨ p.isSpent k = false) := by
  constructor
  · intro h
    cases h with
    | stopped hv hw hstop => exact ⟨rfl, hstop, hv, hw⟩
  · rintro ⟨rfl, hstop, hv, hw⟩
    exact .stopped hv hw hstop

theorem exhausted_iff : p.Ending a s m (.ok (.exhausted k)) ↔
    m = k ∧ p.budget = some k ∧ p.InVain a s k ∧ (k = 0 → p.isStoppedAt a s 0 = false) := by
  constructor
  · intro h
    cases h with
    | exhausted hv hstop hbudget => exact ⟨rfl, hbudget, hv, hstop⟩
  · rintro ⟨rfl, hbudget, hv, hstop⟩
    exact .exhausted hv hstop hbudget

theorem completed_iff {value : α} : p.Ending a s m (.ok (.completed value k)) ↔
    m = k ∧ ∃ n, k = n + 1 ∧ p.InVain a s n ∧ p.isStoppedAt a s n = false ∧ p.isSpent n = false ∧
      p.brought a s n = .ok (some value) := by
  constructor
  · intro h
    cases h with
    | completed hv hw hstop hgot => exact ⟨rfl, _, rfl, hv, hstop, hw, hgot⟩
  · rintro ⟨rfl, n, rfl, hv, hstop, hw, hgot⟩
    exact .completed hv hw hstop hgot

theorem failed_iff {e : AccessError} : p.Ending a s m (.error e) ↔
    ∃ n, m = n + 1 ∧ p.InVain a s n ∧ p.isStoppedAt a s n = false ∧ p.isSpent n = false ∧
      p.brought a s n = .error e := by
  constructor
  · intro h
    cases h with
    | failed hv hw hstop hgot => exact ⟨_, rfl, hv, hstop, hw, hgot⟩
  · rintro ⟨n, rfl, hv, hstop, hw, hgot⟩
    exact .failed hv hw hstop hgot

end Ending

/-- With a budget the loop ends, after at most so many attempts. -/
theorem exists_ends {b : Nat} (hb : p.budget = some b) : ∃ m ≤ b, ∃ r, p.Ends a s m r := by
  rcases run_cases (p := p) (a := a) (s := s) (b + 1) with ⟨-, -, -, hw⟩ | ⟨m, r, hr, hcalls, h⟩
  · have hlt := isSpent_eq_false_iff.mp (hw.resolve_left (Nat.succ_ne_zero b)) b hb
    exact absurd hlt (Nat.not_lt.mpr (Nat.le_succ b))
  · exact ⟨m, h.le_of_budget hb, r, b + 1, hr, hcalls⟩

/-- A loop without end has no budget, and every attempt is made in vain. -/
theorem endless_iff : (∀ m r, ¬ p.Ends a s m r) ↔ p.budget = none ∧ ∀ n, p.InVain a s n := by
  constructor
  · intro hnever
    have hvain (n : Nat) : p.InVain a s n := by
      rcases run_cases (p := p) (a := a) (s := s) n with ⟨-, -, h, -⟩ | ⟨m, r, hr, hcalls, -⟩
      · exact h
      · exact absurd ⟨n, hr, hcalls⟩ (hnever m r)
    refine ⟨?_, hvain⟩
    cases hb : p.budget with
    | none => rfl
    | some b =>
      obtain ⟨m, -, r, h⟩ := exists_ends (a := a) (s := s) hb
      exact absurd h (hnever m r)
  · rintro ⟨hb, hvain⟩ m r hends
    have hround (n : Nat) := (inVain_succ.mp (hvain (n + 1))).2
    cases ends_iff.mp hends with
    | stopped hv hw hstop => simp [(hround m).1] at hstop
    | exhausted hv hstop hbudget => simp [hb] at hbudget
    | @completed n value hv hw hstop hgot => simp [(hround n).2] at hgot
    | @failed n e hv hw hstop hgot => simp [(hround n).2] at hgot

/-- How a loop ends, with its attempts numbered from 0 on without a gap. -/
theorem ends_by_first_cause (p : PollLoop) (a : Attempts S α) (s : S) :
    (∀ fuel, ∃ m, p.calls a s fuel = List.range m) ∧
    (∀ m value k, p.Ends a s m (.ok (.completed value k)) ↔ m = k ∧ ∃ n, k = n + 1 ∧
      p.InVain a s n ∧ p.isStoppedAt a s n = false ∧ (∀ b ∈ p.budget, n < b) ∧
      p.brought a s n = .ok (some value)) ∧
    (∀ m e, p.Ends a s m (.error e) ↔ ∃ n, m = n + 1 ∧
      p.InVain a s n ∧ p.isStoppedAt a s n = false ∧ (∀ b ∈ p.budget, n < b) ∧
      p.brought a s n = .error e) ∧
    (∀ m k, p.Ends a s m (.ok (.exhausted k)) ↔ m = k ∧ p.budget = some k ∧ p.InVain a s k ∧
      (k = 0 → p.isStoppedAt a s 0 = false)) ∧
    (∀ m k, p.Ends a s m (.ok (.stopped k)) ↔ m = k ∧ p.isStoppedAt a s k = true ∧
      p.InVain a s k ∧ (k = 0 ∨ ∀ b ∈ p.budget, k < b)) ∧
    (∀ b ∈ p.budget, ∃ m ≤ b, ∃ r, p.Ends a s m r) ∧
    ((∀ m r, ¬ p.Ends a s m r) ↔ p.budget = none ∧ ∀ n, p.InVain a s n) := by
  refine ⟨?numbered, ?completed, ?failed, ?exhausted, ?stopped, ?budget, endless_iff⟩
  case numbered =>
    intro fuel
    rcases run_cases (p := p) (a := a) (s := s) fuel with ⟨-, hcalls, -⟩ | ⟨m, -, -, hcalls, -⟩
    · exact ⟨fuel, hcalls⟩
    · exact ⟨m, hcalls⟩
  case completed => simp only [ends_iff, Ending.completed_iff, isSpent_eq_false_iff, implies_true]
  case failed => simp only [ends_iff, Ending.failed_iff, isSpent_eq_false_iff, implies_true]
  case exhausted => simp only [ends_iff, Ending.exhausted_iff, implies_true]
  case stopped => simp only [ends_iff, Ending.stopped_iff, isSpent_eq_false_iff, implies_true]
  case budget =>
    intro b hb
    exact exists_ends hb

def twoAttempts : PollLoop where
  interval := 0
  budget := some 2

def stoppedLast : Attempts ScriptedPoll Int := ScriptedPoll.attempts [{}, { raisesStop := true }]

theorem budget_outranks_last_stop :
    2 ∈ twoAttempts.budget ∧ (∃ m ≤ 2, ∃ r, twoAttempts.Ends stoppedLast ⟨false, []⟩ m r) ∧
      twoAttempts.isStoppedAt stoppedLast ⟨false, []⟩ 2 = true ∧
      twoAttempts.Ends stoppedLast ⟨false, []⟩ 2 (.ok (.exhausted 2)) := by
  have hvain : twoAttempts.InVain stoppedLast ⟨false, []⟩ 2 := by
    intro i hi
    obtain rfl | rfl : i = 0 ∨ i = 1 := by omega
    · exact ⟨rfl, rfl⟩
    · exact ⟨rfl, rfl⟩
  obtain ⟨-, -, -, hexhausted, -, hbudget, -⟩ :=
    ends_by_first_cause twoAttempts stoppedLast ⟨false, []⟩
  exact ⟨rfl, hbudget 2 rfl, rfl, (hexhausted 2 2).mpr ⟨rfl, rfl, hvain, by simp⟩⟩

end PollLoop

end HidAccess
