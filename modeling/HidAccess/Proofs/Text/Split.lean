import HidAccess.Text.Split
import Mathlib.Tactic.SplitIfs

/-! Parts of a text: what is cut off at a separator, the lines of a text whose lines all end, and parts that
are read as a whole or not at all. -/

namespace HidAccess.Text
variable {cut : Char → Bool} {sep c : Char} {cs rest start before after part : List Char}
  {parts ls : List (List Char)}

theorem splitBy_append (hc : cut c) (cs rest : List Char) :
    splitBy cut (cs ++ c :: rest) = splitBy cut cs ++ splitBy cut rest := by
  induction cs with
  | nil => simp [splitBy, hc]
  | cons d cs ih =>
    simp only [List.cons_append, splitBy, ih]
    split_ifs
    · rfl
    · rcases hparts : splitBy cut cs with _ | ⟨part, parts⟩
      · exact absurd hparts (splitBy_ne_nil _ _)
      · rfl

theorem splitAt_append (sep : Char) (cs rest : List Char) :
    splitAt sep (cs ++ sep :: rest) = splitAt sep cs ++ splitAt sep rest :=
  splitBy_append (by simp) cs rest

theorem splitBy_of_forall (h : ∀ c ∈ cs, cut c = false) : splitBy cut cs = [cs] := by
  induction cs with
  | nil => rfl
  | cons c cs ih =>
    obtain ⟨hc, hcs⟩ := List.forall_mem_cons.mp h
    simp [splitBy, hc, ih hcs]

theorem splitAt_eq_cons_iff : splitAt sep cs = part :: parts ↔ sep ∉ part ∧
    (cs = part ∧ parts = [] ∨ ∃ rest, cs = part ++ sep :: rest ∧ splitAt sep rest = parts) := by
  constructor
  · intro h
    by_cases hsep : sep ∈ cs
    · obtain ⟨before, rest, rfl, hbefore⟩ := List.eq_append_cons_of_mem hsep
      rw [splitAt_append_cons hbefore] at h
      obtain ⟨rfl, rfl⟩ := List.cons.inj h
      exact ⟨hbefore, .inr ⟨rest, rfl, rfl⟩⟩
    · rw [splitAt_of_not_mem hsep] at h
      obtain ⟨rfl, rfl⟩ := List.cons.inj h
      exact ⟨hsep, .inl ⟨rfl, rfl⟩⟩
  · rintro ⟨hpart, ⟨rfl, rfl⟩ | ⟨rest, rfl, rfl⟩⟩
    · exact splitAt_of_not_mem hpart
    · exact splitAt_append_cons hpart rest

theorem splitFirst?_of_not_mem (h : sep ∉ cs) : splitFirst? sep cs = none := by
  induction cs with
  | nil => rfl
  | cons c cs ih =>
    have hc : c ≠ sep := fun heq => h (heq ▸ List.mem_cons_self)
    have hcs : sep ∉ cs := fun hmem => h (List.mem_cons_of_mem c hmem)
    simp [splitFirst?, hc, ih hcs]

theorem splitFirst?_append (h : sep ∉ before) (after : List Char) :
    splitFirst? sep (before ++ sep :: after) = some (before, after) := by
  induction before with
  | nil => simp [splitFirst?]
  | cons c before ih =>
    have hc : c ≠ sep := fun heq => h (heq ▸ List.mem_cons_self)
    have hbefore : sep ∉ before := fun hmem => h (List.mem_cons_of_mem c hmem)
    simp [splitFirst?, hc, ih hbefore]

theorem splitFirst?_eq_some_iff :
    splitFirst? sep cs = some (before, after) ↔ cs = before ++ sep :: after ∧ sep ∉ before := by
  constructor
  · intro h
    by_cases hsep : sep ∈ cs
    · obtain ⟨before, after, rfl, hbefore⟩ := List.eq_append_cons_of_mem hsep
      rw [splitFirst?_append hbefore, Option.some.injEq, Prod.mk.injEq] at h
      obtain ⟨rfl, rfl⟩ := h
      exact ⟨rfl, hbefore⟩
    · simp [splitFirst?_of_not_mem hsep] at h
  · rintro ⟨rfl, hbefore⟩
    exact splitFirst?_append hbefore after

theorem dropStart?_eq_some_iff : dropStart? start cs = some rest ↔ cs = start ++ rest := by
  constructor
  · exact dropStart?_eq_some
  · rintro rfl
    exact dropStart?_append start rest

theorem dropReturn_prefix (cs : List Char) : dropReturn cs <+: cs := by
  fun_induction dropReturn cs with
  | case1 => exact List.nil_prefix
  | case2 => exact List.nil_prefix
  | case3 c cs _ ih => exact (List.prefix_cons_inj c).mpr ih

theorem dropReturn_of_getLast? (h : cs.getLast? ≠ some '\r') : dropReturn cs = cs := by
  fun_induction dropReturn cs with
  | case1 => rfl
  | case2 => simp at h
  | case3 c cs hne ih =>
    rw [ih]
    cases cs with
    | nil => simp
    | cons d cs => simpa using h

theorem lines_append (h : '\n' ∉ cs) (rest : List Char) :
    lines (cs ++ '\n' :: rest) = dropReturn cs :: lines rest := by
  rw [lines, splitAt_append_cons h, lines]
  cases hparts : splitAt '\n' rest with
  | nil => exact absurd hparts (splitBy_ne_nil _ _)
  | cons part parts => rfl

theorem lines_ended (h : ∀ l ∈ ls, '\n' ∉ l) :
    lines (ls.flatMap (· ++ ['\n'])) = ls.map dropReturn := by
  induction ls with
  | nil => rfl
  | cons l ls ih =>
    obtain ⟨hl, hls⟩ := List.forall_mem_cons.mp h
    rw [List.flatMap_cons, List.append_assoc, List.singleton_append, lines_append hl, ih hls,
      List.map_cons]

section Parts

theorem isSome_mapM {α β : Type} {f : α → Option β} (xs : List α) :
    (xs.mapM f).isSome ↔ ∀ x ∈ xs, (f x).isSome := by
  induction xs with
  | nil => simp
  | cons x xs ih =>
    rw [List.forall_mem_cons, ← ih, List.mapM_cons]
    cases f x with
    | none => simp
    | some y => cases xs.mapM f <;> simp

theorem length_of_mapM {α β : Type} {f : α → Option β} {xs : List α} {ys : List β}
    (h : xs.mapM f = some ys) : ys.length = xs.length := by
  induction xs generalizing ys with
  | nil => simp_all
  | cons x xs ih =>
    rw [List.mapM_cons] at h
    obtain ⟨y, -, h⟩ := Option.bind_eq_some_iff.mp h
    obtain ⟨zs, hzs, h⟩ := Option.bind_eq_some_iff.mp h
    obtain rfl : y :: zs = ys := Option.some.inj h
    simp [ih hzs]

end Parts

end HidAccess.Text
