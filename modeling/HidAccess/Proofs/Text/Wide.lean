import HidAccess.Proofs.Text.Split
import HidAccess.Text.Wide
import Mathlib.Tactic.ByContra

/-! A wide-character text that is cut at a number of characters. -/

namespace HidAccess.Text.Wide
variable {units : List Int} {n : Nat} {s : String}

theorem untilZero_take (units : List Int) (n : Nat) : untilZero (units.take n) = (untilZero units).take n := by
  rw [untilZero, untilZero, List.map_take, List.take_takeWhile]

theorem isSome_decode? : (decode? units).isSome ↔ ∀ c ∈ untilZero units, (char? c).isSome := by
  rw [decode?, Option.isSome_map, isSome_mapM]

theorem length_of_decode? (h : decode? units = some s) : s.toList.length = (untilZero units).length := by
  rcases Option.map_eq_some_iff.mp h with ⟨cs, hcs, rfl⟩
  rw [String.toList_ofList, length_of_mapM hcs]

/-- A cut makes no difference to a text that is not longer, nor to one that is no text because of what
stands before the cut. -/
theorem decode?_take_iff : decode? (units.take n) = decode? units ↔
    (untilZero units).length ≤ n ∨ ∃ c ∈ (untilZero units).take n, char? c = none := by
  constructor
  · intro h
    by_contra hnot
    simp only [not_or, Nat.not_le, not_exists, not_and, ← ne_eq, Option.ne_none_iff_isSome] at hnot
    rcases hnot with ⟨hlong, hvalid⟩
    have hsome : (decode? (units.take n)).isSome := by
      rw [isSome_decode?, untilZero_take]
      exact hvalid
    rcases Option.isSome_iff_exists.mp hsome with ⟨s, hs⟩
    have hcut := length_of_decode? hs
    have hwhole := length_of_decode? (h ▸ hs)
    rw [untilZero_take, List.length_take] at hcut
    omega
  · rintro (hshort | ⟨c, hc, hnone⟩)
    · simp only [decode?, untilZero_take, List.take_of_length_le hshort]
    · have hinvalid : ∀ units', c ∈ untilZero units' → decode? units' = none := by
        intro units' hmem
        rw [← Option.not_isSome_iff_eq_none, isSome_decode?]
        intro hall
        simpa [hnone] using hall c hmem
      rw [hinvalid _ (untilZero_take units n ▸ hc), hinvalid _ (List.mem_of_mem_take hc)]

end HidAccess.Text.Wide
