import HidAccess.Proofs.Text.Blank
import HidAccess.Proofs.Text.Numeral
import Mathlib.Data.Nat.Digits.Defs

/-! The form of numerals. A numeral is one or more digits of its radix, the highest first, after an optional
plus sign; the reader takes exactly the numerals of the numbers within its limit. -/

namespace HidAccess.Text.Numeral
variable {radix limit value n v : Nat} {c : Char} {cs : List Char}

def IsDigit (c : Char) (v : Nat) : Prop := c = v.digitChar ∨ c = v.digitChar.toUpper

instance (c : Char) (v : Nat) : Decidable (IsDigit c v) :=
  inferInstanceAs (Decidable (c = v.digitChar ∨ c = v.digitChar.toUpper))

/-- The digits of a number in positional notation, after an optional plus sign. -/
def Denotes (radix : Nat) (cs : List Char) (n : Nat) : Prop :=
  ∃ ds vs, (cs = ds ∨ cs = '+' :: ds) ∧ ds ≠ [] ∧ List.Forall₂ IsDigit ds vs ∧ (∀ v ∈ vs, v < radix) ∧
    n = Nat.ofDigits radix vs.reverse

theorem digit?_eq_some_of_le (hr : radix ≤ 16) :
    digit? radix c = some v ↔ digit? 16 c = some v ∧ v < radix := by
  simp only [digit?, Option.filter_eq_some_iff, decide_eq_true_eq]
  constructor
  · rintro ⟨hvalue, hv⟩
    exact ⟨⟨hvalue, Nat.lt_of_lt_of_le hv hr⟩, hv⟩
  · rintro ⟨⟨hvalue, -⟩, hv⟩
    exact ⟨hvalue, hv⟩

theorem toNat_lt_of_digit? (h : digit? radix c = some v) : c.toNat < 128 := by
  have hle (d : Char) (hd : d ≤ 'z') (hc : c ≤ d) : c.toNat < 128 := by
    have h₁ : c.toNat ≤ d.toNat := hc
    have h₂ : d.toNat ≤ 122 := hd
    omega
  simp only [digit?, Option.filter_eq_some_iff] at h
  have hvalue := h.1
  split_ifs at hvalue with h₀ h₁ h₂
  · exact hle '9' (by decide) h₀.2
  · exact hle 'z' (by decide) h₁.2
  · exact hle 'Z' (by decide) h₂.2

theorem digit?_eq_some_iff (hr : radix ≤ 16) : digit? radix c = some v ↔ IsDigit c v ∧ v < radix := by
  rw [digit?_eq_some_of_le hr]
  refine and_congr_left fun hv => ?_
  constructor
  · intro h
    have hascii : ∀ k < 128, ∀ v ∈ digit? 16 (Char.ofNat k), IsDigit (Char.ofNat k) v := by decide
    have hc := hascii c.toNat (toNat_lt_of_digit? h)
    rw [Char.ofNat_toNat] at hc
    exact hc v h
  · have hdigits : ∀ v < 16, ∀ c, IsDigit c v → digit? 16 c = some v := by
      simp only [IsDigit, forall_eq_or_imp, forall_eq]
      decide
    exact hdigits v (Nat.lt_of_lt_of_le hv hr) c

theorem continue?_eq_some_iff (hr : radix ≤ 16) : continue? radix value cs = some n ↔
    ∃ vs, List.Forall₂ IsDigit cs vs ∧ (∀ v ∈ vs, v < radix) ∧
      n = vs.foldl (fun n v => n * radix + v) value := by
  induction cs generalizing value with
  | nil =>
    constructor
    · intro h
      exact ⟨[], .nil, by simp, (Option.some.inj h).symm⟩
    · rintro ⟨_, _ | _, -, rfl⟩
      rfl
  | cons c cs ih =>
    rw [continue?]
    constructor
    · intro h
      cases hd : digit? radix c with
      | none => simp [hd] at h
      | some v =>
        rw [hd] at h
        obtain ⟨hc, hv⟩ := (digit?_eq_some_iff hr).mp hd
        obtain ⟨vs, hcs, hvs, hn⟩ := ih.mp h
        exact ⟨v :: vs, .cons hc hcs, List.forall_mem_cons.mpr ⟨hv, hvs⟩, hn⟩
    · rintro ⟨_, _ | ⟨hc, hcs⟩, hvs, hn⟩
      obtain ⟨hv, hvs⟩ := List.forall_mem_cons.mp hvs
      rw [(digit?_eq_some_iff hr).mpr ⟨hc, hv⟩]
      exact ih.mpr ⟨_, hcs, hvs, hn⟩

theorem ofDigits_reverse (radix : Nat) (vs : List Nat) :
    Nat.ofDigits radix vs.reverse = vs.foldl (fun n v => n * radix + v) 0 := by
  rw [Nat.ofDigits_eq_foldr, List.foldr_reverse]
  simp [Nat.add_comm, Nat.mul_comm]

theorem digits?_eq_some_iff (hr : radix ≤ 16) : digits? radix cs = some n ↔
    cs ≠ [] ∧ ∃ vs, List.Forall₂ IsDigit cs vs ∧ (∀ v ∈ vs, v < radix) ∧
      n = Nat.ofDigits radix vs.reverse := by
  simp only [ofDigits_reverse, ← continue?_eq_some_iff hr]
  cases cs <;> simp [digits?]

theorem eq_dropPlus_or (cs : List Char) : cs = dropPlus cs ∨ cs = '+' :: dropPlus cs := by
  unfold dropPlus
  split <;> simp

theorem read?_eq_some_iff (hr : radix ≤ 16) :
    read? radix limit cs = some n ↔ Denotes radix cs n ∧ n ≤ limit := by
  rw [read?, Option.filter_eq_some_iff, decide_eq_true_eq, digits?_eq_some_iff hr]
  refine and_congr_left fun _ => ?_
  constructor
  · rintro ⟨hne, vs, hdigits, hvs, hn⟩
    exact ⟨dropPlus cs, vs, eq_dropPlus_or cs, hne, hdigits, hvs, hn⟩
  · rintro ⟨ds, vs, hcs, hne, hdigits, hvs, hn⟩
    -- A plus sign is no digit, so nothing is taken off a numeral without a sign.
    have hplus : dropPlus cs = ds := by
      obtain rfl | rfl := hcs
      · exact dropPlus_of_digits? ((digits?_eq_some_iff hr).mpr ⟨hne, vs, hdigits, hvs, rfl⟩)
      · rfl
    rw [hplus]
    exact ⟨hne, vs, hdigits, hvs, hn⟩

theorem not_mem_of_denotes (hr : radix ≤ 16) (hplus : c ≠ '+') (hc : digit? radix c = none)
    (h : Denotes radix cs n) : c ∉ cs := by
  obtain ⟨ds, vs, hcs, hne, hdigits, hvs, -⟩ := h
  have hds : c ∉ ds := not_mem_of_digits? hc ((digits?_eq_some_iff hr).mpr ⟨hne, vs, hdigits, hvs, rfl⟩)
  obtain rfl | rfl := hcs
  · exact hds
  · simp [hplus, hds]

theorem isBlank_of_digit? (h : digit? 16 c = some v) : isBlank c = false := by
  have hascii : ∀ k < 128, (digit? 16 (Char.ofNat k)).isSome → isBlank (Char.ofNat k) = false := by decide
  have hc := hascii c.toNat (toNat_lt_of_digit? h)
  rw [Char.ofNat_toNat, h] at hc
  exact hc rfl

theorem isBlank_of_digits? (h : digits? 16 cs = some n) : ∀ c ∈ cs, isBlank c = false := by
  intro c hc
  obtain ⟨v, hv⟩ := Option.isSome_iff_exists.mp (isSome_digit?_of_digits? h c hc)
  exact isBlank_of_digit? hv

theorem trim_line (h : digits? 16 cs = some n) : trim (cs ++ ['\n']) = cs := by
  have hfeed : Blanks ['\n'] := List.forall_mem_singleton.mpr (by decide)
  exact trim_of_isCore ⟨isBare_of_forall (isBlank_of_digits? h), [], ['\n'], List.forall_mem_nil _, hfeed, rfl⟩

theorem IsDigit.toUpper (hv : v < 16) (h : IsDigit c v) : IsDigit c.toUpper v := by
  have hupper : ∀ v < 16, v.digitChar.toUpper.toUpper = v.digitChar.toUpper := by decide
  obtain rfl | rfl := h
  · exact .inr rfl
  · exact .inr (hupper v hv)

theorem isDigits_toUpper {vs : List Nat} (hvs : ∀ v ∈ vs, v < 16) (h : List.Forall₂ IsDigit cs vs) :
    List.Forall₂ IsDigit (cs.map Char.toUpper) vs := by
  induction h with
  | nil => exact .nil
  | cons hc _ ih =>
    obtain ⟨hv, hvs⟩ := List.forall_mem_cons.mp hvs
    exact .cons (hc.toUpper hv) (ih hvs)

theorem Denotes.toUpper (hr : radix ≤ 16) (h : Denotes radix cs n) :
    Denotes radix (cs.map Char.toUpper) n := by
  obtain ⟨ds, vs, hcs, hne, hdigits, hvs, hn⟩ := h
  have hupper := isDigits_toUpper (fun v hv => Nat.lt_of_lt_of_le (hvs v hv) hr) hdigits
  refine ⟨ds.map Char.toUpper, vs, ?_, by simpa using hne, hupper, hvs, hn⟩
  obtain rfl | rfl := hcs
  · exact .inl rfl
  · exact .inr rfl

end HidAccess.Text.Numeral
