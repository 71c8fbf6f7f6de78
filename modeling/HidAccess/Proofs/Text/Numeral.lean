import HidAccess.Text.Numeral
import Mathlib.Tactic.IntervalCases

/-! Written numerals are read back, with any number of zeros in front. -/

namespace HidAccess.Text.Numeral
variable {radix limit value n : Nat} {cs ds : List Char}

theorem digit?_digitChar {d : Nat} (hd : d < radix) (hr : radix ≤ 16) :
    digit? radix d.digitChar = some d := by
  have hd' : d < 16 := Nat.lt_of_lt_of_le hd hr
  interval_cases d <;> simp [digit?, Nat.digitChar, hd]

theorem continue?_append : continue? radix value (cs ++ ds) =
    (continue? radix value cs).bind fun v => continue? radix v ds := by
  induction cs generalizing value with
  | nil => rfl
  | cons c cs ih =>
    simp only [List.cons_append, continue?]
    cases digit? radix c with
    | none => rfl
    | some d => exact ih

theorem continue?_zeros (hr : 0 < radix) (zeros : Nat) :
    continue? radix 0 (List.replicate zeros '0' ++ cs) = continue? radix 0 cs := by
  have hzero : digit? radix '0' = some 0 := by simp [digit?, hr]
  induction zeros with
  | zero => rfl
  | succ zeros ih =>
    rw [List.replicate_succ, List.cons_append, continue?, hzero]
    simpa using ih

theorem continue?_toDigits (hr : 1 < radix) (hr' : radix ≤ 16) (n : Nat) :
    continue? radix 0 (Nat.toDigits radix n) = some n := by
  induction n using Nat.strongRecOn with
  | ind n ih =>
    by_cases hn : n < radix
    · simp [Nat.toDigits_of_lt_base hn, continue?, digit?_digitChar hn hr']
    · have hlt : n / radix < n := Nat.div_lt_self (by omega) hr
      have hdigit : n % radix < radix := Nat.mod_lt n (by omega)
      rw [Nat.toDigits_of_base_le hr (Nat.le_of_not_lt hn), continue?_append, ih _ hlt]
      simp only [Option.bind_some, continue?, digit?_digitChar hdigit hr', Option.some.injEq]
      exact Nat.div_add_mod' n radix

theorem digits?_padded (hr : 1 < radix) (hr' : radix ≤ 16) (zeros n : Nat) :
    digits? radix (List.replicate zeros '0' ++ Nat.toDigits radix n) = some n := by
  have hread : continue? radix 0 (List.replicate zeros '0' ++ Nat.toDigits radix n) = some n := by
    rw [continue?_zeros (by omega), continue?_toDigits hr hr']
  have hne : List.replicate zeros '0' ++ Nat.toDigits radix n ≠ [] := by
    simp [Nat.toDigits_ne_nil]
  cases hcs : List.replicate zeros '0' ++ Nat.toDigits radix n with
  | nil => exact absurd hcs hne
  | cons c cs => rwa [hcs] at hread

theorem head?_toDigits (hr : 1 < radix) (hn : n ≠ 0) : (Nat.toDigits radix n).head? ≠ some '0' := by
  induction n using Nat.strongRecOn with
  | ind n ih =>
    by_cases hlt : n < radix
    · intro hzero
      rw [Nat.toDigits_of_lt_base hlt, List.head?_cons, Option.some.injEq] at hzero
      exact hn (Nat.digitChar_eq_zero.mp hzero)
    · have hquot : n / radix ≠ 0 := Nat.ne_of_gt (Nat.div_pos (Nat.le_of_not_lt hlt) (by omega))
      have hdigits := ih (n / radix) (Nat.div_lt_self (by omega) hr) hquot
      rw [Nat.toDigits_of_base_le hr (Nat.le_of_not_lt hlt)]
      rwa [List.head?_append, List.head?_eq_some_head Nat.toDigits_ne_nil, Option.some_or,
        ← List.head?_eq_some_head]

theorem no_leading_zero (hr : 1 < radix) (n : Nat) :
    ¬ ((Nat.toDigits radix n).head? = some '0' ∧ 1 < (Nat.toDigits radix n).length) := by
  rintro ⟨hzero, hlength⟩
  by_cases hn : n = 0
  · subst hn
    rw [Nat.toDigits_of_lt_base (by omega)] at hlength
    simp at hlength
  · exact head?_toDigits hr hn hzero

theorem isSome_digit?_of_continue? (h : continue? radix value cs = some n) :
    ∀ c ∈ cs, (digit? radix c).isSome := by
  induction cs generalizing value with
  | nil => simp
  | cons c cs ih =>
    simp only [continue?] at h
    cases hd : digit? radix c with
    | none => simp [hd] at h
    | some d =>
      rw [hd] at h
      intro c' hc'
      rcases List.mem_cons.mp hc' with rfl | hmem
      · simp [hd]
      · exact ih h c' hmem

theorem isSome_digit?_of_digits? (h : digits? radix cs = some n) :
    ∀ c ∈ cs, (digit? radix c).isSome := by
  cases cs with
  | nil => simp
  | cons c cs => exact isSome_digit?_of_continue? h

theorem not_mem_of_digits? {c : Char} (hc : digit? radix c = none)
    (h : digits? radix cs = some n) : c ∉ cs := by
  intro hmem
  have hdigit := isSome_digit?_of_digits? h c hmem
  simp [hc] at hdigit

theorem digit?_plus : digit? radix '+' = none := by
  simp [digit?]

theorem dropPlus_of_digits? (h : digits? radix cs = some n) : dropPlus cs = cs := by
  have hplus := not_mem_of_digits? digit?_plus h
  unfold dropPlus
  split
  · simp at hplus
  · rfl

theorem read?_of_digits? (h : digits? radix cs = some n) (hn : n ≤ limit) :
    read? radix limit cs = some n := by
  simp [read?, dropPlus_of_digits? h, h, hn]

theorem digits?_hex (width n : Nat) : digits? 16 (hex width n).toList = some n := by
  rw [hex, String.toList_ofList]
  exact digits?_padded (by decide) (by decide) _ n

theorem digits?_decimal (n : Nat) : digits? 10 (toString n).toList = some n := by
  rw [Nat.toString_eq_ofList_toDigits, String.toList_ofList]
  exact digits?_padded (by decide) (by decide) 0 n

theorem read?_decimal (hn : n ≤ limit) : read? 10 limit (toString n).toList = some n :=
  read?_of_digits? (digits?_decimal n) hn

end HidAccess.Text.Numeral
