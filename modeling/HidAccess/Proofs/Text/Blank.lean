import HidAccess.Text.Blank
import Mathlib.Data.List.TakeWhile

/-! What trimming leaves: the text between the blanks at its ends. -/

namespace HidAccess.Text
variable {cs core : List Char}

def Blanks (cs : List Char) : Prop := ∀ c ∈ cs, isBlank c = true

structure IsBare (core : List Char) : Prop where
  head : ∀ c ∈ core.head?, isBlank c = false
  last : ∀ c ∈ core.getLast?, isBlank c = false

/-- `core` is what stands in `cs` between blanks. -/
def IsCore (cs core : List Char) : Prop :=
  IsBare core ∧ ∃ before after, Blanks before ∧ Blanks after ∧ cs = before ++ (core ++ after)

theorem dropWhile_blanks {before : List Char} (hbefore : Blanks before)
    (hhead : ∀ c ∈ core.head?, isBlank c = false) : (before ++ core).dropWhile isBlank = core := by
  rw [List.dropWhile_append_of_pos hbefore]
  cases core with
  | nil => rfl
  | cons c core => exact List.dropWhile_cons_of_neg (by simp [hhead c rfl])

theorem blanks_takeWhile (cs : List Char) : Blanks (cs.takeWhile isBlank) :=
  List.all_eq_true.mp List.all_takeWhile

theorem head_dropWhile (cs : List Char) : ∀ c ∈ (cs.dropWhile isBlank).head?, isBlank c = false := by
  intro c hc
  have hnot := List.head?_dropWhile_not isBlank cs
  rw [hc] at hnot
  simpa using hnot

theorem Blanks.reverse (h : Blanks cs) : Blanks cs.reverse :=
  fun c hc => h c (List.mem_reverse.mp hc)

theorem trim_of_isCore (h : IsCore cs core) : trim cs = core := by
  obtain ⟨hbare, before, after, hbefore, hafter, rfl⟩ := h
  by_cases hcore : core = []
  · subst hcore
    have hall : Blanks (before ++ after) := by
      intro c hc
      rcases List.mem_append.mp hc with hc | hc
      · exact hbefore c hc
      · exact hafter c hc
    rw [trim, trimStart, List.nil_append, List.dropWhile_eq_nil_iff.mpr hall]
    rfl
  · have hhead : ∀ c ∈ (core ++ after).head?, isBlank c = false := by
      rw [List.head?_append, List.head?_eq_some_head hcore, Option.some_or, ← List.head?_eq_some_head]
      exact hbare.head
    have hlast : ∀ c ∈ core.reverse.head?, isBlank c = false := by
      rw [List.head?_reverse]
      exact hbare.last
    rw [trim, trimStart, dropWhile_blanks hbefore hhead, trimEnd, List.reverse_append,
      dropWhile_blanks hafter.reverse hlast, List.reverse_reverse]

theorem isCore_trim (cs : List Char) : IsCore cs (trim cs) := by
  have hend : trimStart cs = trim cs ++ ((trimStart cs).reverse.takeWhile isBlank).reverse := by
    rw [trim, trimEnd, ← List.reverse_append, List.takeWhile_append_dropWhile, List.reverse_reverse]
  refine ⟨⟨?head, ?last⟩, _, _, blanks_takeWhile cs, (blanks_takeWhile (trimStart cs).reverse).reverse, ?whole⟩
  case head =>
    intro c hc
    apply head_dropWhile cs c
    rw [← trimStart, hend, List.head?_append, Option.mem_def.mp hc]
    rfl
  case last =>
    rw [trim, trimEnd, List.getLast?_reverse]
    exact head_dropWhile _
  case whole => rw [← hend, trimStart, List.takeWhile_append_dropWhile]

theorem trim_eq_iff : trim cs = core ↔ IsCore cs core := by
  constructor
  · rintro rfl
    exact isCore_trim cs
  · exact trim_of_isCore

theorem isBare_of_forall (h : ∀ c ∈ core, isBlank c = false) : IsBare core where
  head c hc := h c (List.mem_of_mem_head? hc)
  last c hc := h c (List.mem_of_mem_getLast? hc)

theorem IsBare.isCore (h : IsBare core) : IsCore core core :=
  ⟨h, [], [], by simp [Blanks], by simp [Blanks], by simp⟩

end HidAccess.Text
