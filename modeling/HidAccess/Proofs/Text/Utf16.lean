import HidAccess.Text.Utf16

/-! Every text comes back from its 16-bit units. -/

namespace HidAccess.Text.Utf16
variable {c : Char} {u high low : Nat} {units : List Nat}

theorem toNat_cases (c : Char) : c.toNat < 0xD800 ∨ 0xDFFF < c.toNat ∧ c.toNat < 0x110000 := c.valid

theorem chars?_cons (hh : isHigh u = false) (hl : isLow u = false) :
    chars? (u :: units) = (chars? units).map (Char.ofNat u :: ·) := by
  rcases units with _ | ⟨v, units⟩
  · simp [chars?, hh, hl]
  · simp [chars?, hh, hl]

theorem chars?_pair (hh : isHigh high = true) (hl : isLow low = true) :
    chars? (high :: low :: units) = (chars? units).map (joined high low :: ·) := by
  simp [chars?, hh, hl]

theorem joined_surrogates (hc : 0x10000 ≤ c.toNat) :
    joined (0xD800 + (c.toNat - 0x10000) / 0x400) (0xDC00 + (c.toNat - 0x10000) % 0x400) = c := by
  have hsum : 0x10000 + (0xD800 + (c.toNat - 0x10000) / 0x400 - 0xD800) * 0x400 +
      (0xDC00 + (c.toNat - 0x10000) % 0x400 - 0xDC00) = c.toNat := by omega
  rw [joined, hsum, Char.ofNat_toNat]

theorem chars?_encodeChar (c : Char) (units : List Nat) :
    chars? (encodeChar c ++ units) = (chars? units).map (c :: ·) := by
  have hvalid := toNat_cases c
  by_cases hc : c.toNat < 0x10000
  · have hh : isHigh c.toNat = false := by
      simp only [isHigh, Bool.and_eq_false_iff, decide_eq_false_iff_not]; omega
    have hl : isLow c.toNat = false := by
      simp only [isLow, Bool.and_eq_false_iff, decide_eq_false_iff_not]; omega
    rw [encodeChar, if_pos hc, List.singleton_append, chars?_cons hh hl, Char.ofNat_toNat]
  · have hh : isHigh (0xD800 + (c.toNat - 0x10000) / 0x400) = true := by
      simp only [isHigh, Bool.and_eq_true, decide_eq_true_eq]; omega
    have hl : isLow (0xDC00 + (c.toNat - 0x10000) % 0x400) = true := by
      simp only [isLow, Bool.and_eq_true, decide_eq_true_eq]; omega
    simp only [encodeChar, hc, if_false, List.cons_append, List.nil_append]
    rw [chars?_pair hh hl, joined_surrogates (by omega)]

theorem chars?_flatMap (cs : List Char) : chars? (cs.flatMap encodeChar) = some cs := by
  induction cs with
  | nil => rfl
  | cons c cs ih => rw [List.flatMap_cons, chars?_encodeChar, ih, Option.map_some]

theorem decode?_encode (s : String) : decode? (encode s) = some s := by
  rw [decode?, encode, chars?_flatMap, Option.map_some, String.ofList_toList]

end HidAccess.Text.Utf16
