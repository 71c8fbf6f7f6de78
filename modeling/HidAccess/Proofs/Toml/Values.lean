import HidAccess.Proofs.Toml.Numbers
import HidAccess.Proofs.Toml.Tables

/-! Values where they end: strings and numbers, arrays over any lines, and tables in place, one within
another. -/

namespace HidAccess.Toml

/-- A text that is read as this value, within so many levels, wherever a value may end behind it. -/
structure IsValue (depth : Nat) (text : List Char) (v : Value) : Prop where
  head : ∃ c cs, text = c :: cs ∧ c ∉ closers
  value : ∀ rest, Closed rest → valueWithin depth (text ++ rest) = some (v, rest)

structure IsScalar (text : List Char) (v : Value) : Prop where
  head : ∃ c cs, text = c :: cs ∧ c ∉ closers ∧ c ≠ '[' ∧ c ≠ '{'
  scalar : ∀ rest, Closed rest → scalarValue? (text ++ rest) = some (v, rest)

variable {c : Char} {cs text rest : List Char} {v : Value} {depth : Nat}

section Scalars

theorem valueWithin_scalar (depth : Nat) (harray : c ≠ '[') (htable : c ≠ '{') :
    valueWithin depth (c :: cs) = scalarValue? (c :: cs) := by
  rw [valueWithin.eq_def]
  cases depth <;> dsimp only <;> split
  · next heq => exact absurd (List.cons.inj heq).1 harray
  · next heq => exact absurd (List.cons.inj heq).1 htable
  · rfl
  · next heq => exact absurd (List.cons.inj heq).1 harray
  · next heq => exact absurd (List.cons.inj heq).1 htable
  · rfl

theorem IsScalar.isValue (h : IsScalar text v) (depth : Nat) : IsValue depth text v := by
  obtain ⟨c, cs, htext, hc, harray, htable⟩ := h.head
  refine ⟨⟨c, cs, htext, hc⟩, fun rest hrest => ?_⟩
  have hscalar := h.scalar rest hrest
  rw [htext, List.cons_append] at hscalar ⊢
  rw [valueWithin_scalar depth harray htable, hscalar]

theorem isScalar_stringText (s : String) : IsScalar (stringText s).toList (.string s) where
  head := by
    rw [stringText, String.toList_ofList]
    cases StringForm.of s.toList
    · exact ⟨'"', _, rfl, by decide, by decide, by decide⟩
    · exact ⟨'\'', _, rfl, by decide, by decide, by decide⟩
    · exact ⟨'"', _, rfl, by decide, by decide, by decide⟩
    · exact ⟨'\'', _, rfl, by decide, by decide, by decide⟩
  scalar rest hrest := by
    obtain ⟨e, more, rfl, he⟩ := hrest.head
    have hunquoted : Unquoted (e :: more) := by
      refine ⟨fun h => ?_, fun h => ?_⟩
      · exact ne_of_mem_of_not_mem he (by decide) (Option.some.inj h)
      · exact ne_of_mem_of_not_mem he (by decide) (Option.some.inj h)
    rw [scalarValue?, string?_stringText hunquoted]
    simp only [String.ofList_toList]

theorem isScalar_toString {n : Nat} (hn : (n : Int) ≤ maxInteger) :
    IsScalar (toString n).toList (.integer n) where
  head := by
    rw [Nat.toString_eq_ofList_toDigits, String.toList_ofList]
    obtain ⟨d, ds, hds⟩ := List.exists_cons_of_ne_nil (@Nat.toDigits_ne_nil n 10)
    have hd : isDigit 10 d = true := digits_toDigits n d (by rw [hds]; exact List.mem_cons_self)
    have hne (e : Char) (he : isDigit 10 e = false) : d ≠ e :=
      ne_of_apply_ne (isDigit 10) (by rw [hd, he]; decide)
    refine ⟨d, ds, hds, fun hmem => ?_, hne '[' (by decide), hne '{' (by decide)⟩
    rw [isDigit_closer hmem] at hd
    cases hd
  scalar rest hrest := by
    obtain ⟨e, more, rfl, he⟩ := hrest.head
    rw [Nat.toString_eq_ofList_toDigits, String.toList_ofList]
    exact scalarValue?_closed he hn

theorem isScalar_boolean (b : Bool) : IsScalar (toString b).toList (.boolean b) where
  head := by cases b <;> exact ⟨_, _, rfl, by decide, by decide, by decide⟩
  scalar rest hrest := by
    obtain ⟨e, more, rfl, he⟩ := hrest.head
    simp only [closers, List.mem_cons, List.not_mem_nil, or_false] at he
    rcases he with rfl | rfl | rfl | rfl | rfl | rfl | rfl | rfl <;> cases b <;> rfl

end Scalars

section Arrays

structure Item (depth : Nat) where
  text : List Char
  value : Value
  before : Space := {}
  after : Space := {}
  isValue : IsValue depth text value

def Item.chars (i : Item depth) : List Char := i.before.chars ++ (i.text ++ i.after.chars)

def itemsChars (items : List (Item depth)) (last : Option (Item depth)) (gap : Space) : List Char :=
  items.flatMap (fun i => i.chars ++ [',']) ++ (last.elim gap.chars Item.chars ++ [']'])

theorem not_mem_layoutChars (hc : c ∉ closers) : c ∉ layoutChars :=
  fun h => hc (layoutChars_subset_closers h)

theorem item_read (i : Item depth) (rest : List Char) (hc : c ∈ [',', ']']) :
    ∃ d more, skipSpace (i.chars ++ c :: rest).length (i.chars ++ c :: rest) = some (d :: more) ∧ d ≠ ']' ∧
      valueWithin depth (d :: more) = some (i.value, i.after.chars ++ c :: rest) ∧
      skipSpace (i.after.chars ++ c :: rest).length (i.after.chars ++ c :: rest) = some (c :: rest) := by
  obtain ⟨d, ds, htext, hd⟩ := i.isValue.head
  have hchars : i.chars ++ c :: rest = i.before.chars ++ d :: (ds ++ (i.after.chars ++ c :: rest)) := by
    simp [Item.chars, htext]
  have hbefore := i.before.length_lines_le
  have hafter := i.after.length_lines_le
  have hender : c ∈ enders := by
    have hsub : [',', ']'] ⊆ enders := by simp [enders]
    exact hsub hc
  have hlayout : c ∉ layoutChars := by
    have hdisjoint : [',', ']'].all (fun c => !layoutChars.contains c) = true := by decide
    simpa using List.all_eq_true.mp hdisjoint c hc
  refine ⟨d, ds ++ (i.after.chars ++ c :: rest), ?_, ?_, ?_, ?_⟩
  · rw [hchars]
    refine skipSpace_space i.before ?_ (not_mem_layoutChars hd)
    simp only [List.length_append, List.length_cons]
    omega
  · exact (ne_of_mem_of_not_mem (by decide) hd).symm
  · rw [← List.cons_append, ← htext]
    exact i.isValue.value _ (closed_space i.after hender)
  · refine skipSpace_space i.after ?_ hlayout
    simp only [List.length_append, List.length_cons]
    omega

theorem itemsWithin_items (items : List (Item depth)) (last : Option (Item depth)) (gap : Space) {fuel : Nat}
    (hfuel : items.length < fuel) :
    itemsWithin (valueWithin depth) fuel (itemsChars items last gap ++ rest) =
      some ((items ++ last.toList).map (·.value), rest) := by
  induction items generalizing fuel with
  | nil =>
    obtain ⟨fuel, rfl⟩ := Nat.exists_eq_succ_of_ne_zero (Nat.ne_of_gt hfuel)
    cases last with
    | none =>
      have hchars : itemsChars ([] : List (Item depth)) none gap ++ rest = gap.chars ++ ']' :: rest := by
        simp [itemsChars]
      have hlength : gap.lines.length < (gap.chars ++ ']' :: rest).length := by
        have hlines := gap.length_lines_le
        simp only [List.length_append, List.length_cons]
        omega
      rw [hchars, itemsWithin, skipSpace_space gap hlength (by decide)]
      rfl
    | some i =>
      have hchars : itemsChars [] (some i) gap ++ rest = i.chars ++ ']' :: rest := by simp [itemsChars]
      obtain ⟨d, more, hskip, hd, hvalue, hafter⟩ := item_read (c := ']') i rest (by decide)
      rw [hchars, itemsWithin, hskip]
      simp only [Option.bind_eq_bind, Option.bind_some]
      split
      · next heq => exact absurd (List.cons.inj heq).1 hd
      · simp only [hvalue, Option.bind_some, hafter]
        rfl
  | cons i items ih =>
    obtain ⟨fuel, rfl⟩ := Nat.exists_eq_succ_of_ne_zero (Nat.ne_of_gt (Nat.zero_lt_of_lt hfuel))
    have hchars : itemsChars (i :: items) last gap ++ rest =
        i.chars ++ ',' :: (itemsChars items last gap ++ rest) := by
      simp [itemsChars]
    obtain ⟨d, more, hskip, hd, hvalue, hafter⟩ :=
      item_read (c := ',') i (itemsChars items last gap ++ rest) (by decide)
    rw [hchars, itemsWithin, hskip]
    simp only [Option.bind_eq_bind, Option.bind_some]
    split
    · next heq => exact absurd (List.cons.inj heq).1 hd
    · simp only [hvalue, Option.bind_some, hafter, ih (Nat.lt_of_succ_lt_succ hfuel)]
      rfl

theorem length_items_lt (items : List (Item depth)) (last : Option (Item depth)) (gap : Space) :
    items.length < (itemsChars items last gap).length := by
  induction items with
  | nil => simp [itemsChars]
  | cons i items ih =>
    simp only [itemsChars, List.flatMap_cons, List.length_append, List.length_cons] at ih ⊢
    omega

/-- Items on any lines, with comments between them, are those of an array. -/
theorem isValue_array (items : List (Item depth)) (last : Option (Item depth)) (gap : Space) :
    IsValue (depth + 1) ('[' :: itemsChars items last gap)
      (.array ((items ++ last.toList).map (·.value))) where
  head := ⟨'[', _, rfl, by decide⟩
  value rest _ := by
    have hlength : items.length < (itemsChars items last gap ++ rest).length := by
      rw [List.length_append]
      exact Nat.lt_add_right _ (length_items_lt items last gap)
    rw [List.cons_append, valueWithin, itemsWithin_items items last gap hlength]
    rfl

end Arrays

section TablesInPlace

structure Binding (depth : Nat) where
  path : KeyPath
  gap : Gap := noGap
  text : List Char
  value : Value
  after : Gap := noGap
  isValue : IsValue depth text value

namespace Binding

def chars (b : Binding depth) : List Char := b.path.chars ++ '=' :: (b.gap.val ++ (b.text ++ b.after.val))

def entry (b : Binding depth) : List String × Value := (b.path.names, b.value)

def moreChars (more : List (Binding depth)) : List Char := more.flatMap (fun b => ',' :: b.chars) ++ ['}']

theorem read (b : Binding depth) (rest : List Char) (hc : c ∈ [',', '}']) :
    binding? (valueWithin depth) (b.chars ++ c :: rest) = some (b.entry, b.after.val ++ c :: rest) := by
  have hchars : b.chars ++ c :: rest =
      b.path.chars ++ '=' :: (b.gap.val ++ (b.text ++ (b.after.val ++ c :: rest))) := by
    simp [chars]
  have hsub : [',', '}'] ⊆ enders := by simp [enders]
  obtain ⟨d, ds, htext, hd⟩ := b.isValue.head
  rw [hchars]
  exact binding?_of_value b.path b.gap ⟨d, ds, htext, isBlank_eq_false (not_mem_layoutChars hd)⟩
    (b.isValue.value _ (closed_gap b.after (hsub hc)))

theorem bindingsWithin_bindings (b : Binding depth) (more : List (Binding depth)) (rest : List Char)
    {fuel : Nat} (hfuel : more.length < fuel) :
    bindingsWithin (valueWithin depth) fuel (b.chars ++ (moreChars more ++ rest)) =
      some ((b :: more).map entry, rest) := by
  induction more generalizing b fuel with
  | nil =>
    obtain ⟨fuel, rfl⟩ := Nat.exists_eq_succ_of_ne_zero (Nat.ne_of_gt hfuel)
    have hread := b.read (c := '}') rest (by decide)
    have hblank : isBlank '}' = false := rfl
    rw [moreChars, List.flatMap_nil, List.nil_append, List.singleton_append, bindingsWithin, hread]
    simp only [Option.bind_eq_bind, Option.bind_some, skipBlanks_gap, skipBlanks_cons hblank]
    rfl
  | cons b' more ih =>
    obtain ⟨fuel, rfl⟩ := Nat.exists_eq_succ_of_ne_zero (Nat.ne_of_gt (Nat.zero_lt_of_lt hfuel))
    have hchars : b.chars ++ (moreChars (b' :: more) ++ rest) =
        b.chars ++ ',' :: (b'.chars ++ (moreChars more ++ rest)) := by
      simp [moreChars]
    have hread := b.read (c := ',') (b'.chars ++ (moreChars more ++ rest)) (by decide)
    have hblank : isBlank ',' = false := rfl
    rw [hchars, bindingsWithin, hread]
    simp only [Option.bind_eq_bind, Option.bind_some, skipBlanks_gap, skipBlanks_cons hblank,
      ih b' (Nat.lt_of_succ_lt_succ hfuel)]
    rfl

theorem length_more_lt (more : List (Binding depth)) : more.length < (moreChars more).length := by
  induction more with
  | nil => exact Nat.zero_lt_one
  | cons b more ih =>
    simp only [moreChars, List.flatMap_cons, List.length_append, List.length_cons] at ih ⊢
    omega

theorem bindingsWithin_skipBlanks (value : ValueReader) (fuel : Nat) (cs : List Char) :
    bindingsWithin value fuel (skipBlanks cs) = bindingsWithin value fuel cs := by
  cases fuel with
  | zero => rfl
  | succ fuel => rw [bindingsWithin, bindingsWithin, binding?_skipBlanks]

end Binding

def tableChars (gap : Gap) : List (Binding depth) → List Char
  | [] => gap.val ++ ['}']
  | b :: more => b.chars ++ Binding.moreChars more

theorem tableInPlace?_bindings (b : Binding depth) (more : List (Binding depth))
    (hapart : (b :: more).Pairwise fun b b' => OpenTable.Apart b.path.names b'.path.names) :
    tableInPlace? (valueWithin depth) (b.chars ++ (Binding.moreChars more ++ rest)) =
      some (.table ((b :: more).foldl (fun t b => insertAt b.path.names b.value t) []), rest) := by
  obtain ⟨c, cs, hc, hskip⟩ := b.path.head
  have hstart : skipBlanks (b.chars ++ (Binding.moreChars more ++ rest)) =
      c :: (cs ++ ('=' :: (b.gap.val ++ (b.text ++ b.after.val)) ++ (Binding.moreChars more ++ rest))) := by
    rw [Binding.chars, List.append_assoc, hskip]
  have hlength : more.length < (skipBlanks (b.chars ++ (Binding.moreChars more ++ rest))).length := by
    have hmore := Binding.length_more_lt more
    rw [hstart]
    simp only [List.length_append, List.length_cons]
    omega
  have hne : c ≠ '}' := (ne_of_mem_of_not_mem (by decide) hc).symm
  have hread := Binding.bindingsWithin_bindings b more rest hlength
  obtain ⟨t, hdefine, hclose⟩ := OpenTable.foldlM_define (t := .empty .header)
    ((b :: more).map Binding.entry) (by simp [Binding.entry, KeyPath.names])
    (fun e _ => OpenTable.isFree_empty e.1 .header) (List.pairwise_map.mpr hapart) rfl
    (OpenTable.allDotted_empty .header)
  have htable : t.close = (b :: more).foldl (fun t b => insertAt b.path.names b.value t) [] := by
    rw [hclose, List.foldl_map]
    rfl
  rw [← Binding.bindingsWithin_skipBlanks, hstart] at hread
  rw [← htable, tableInPlace?, hstart]
  split
  · next heq => exact absurd (List.cons.inj heq).1 hne
  · simp only [Option.bind_eq_bind, hread, Option.bind_some, hdefine]
    rfl

/-- Settings of a table in place, at paths none of which starts with another. -/
theorem isValue_tableInPlace (bindings : List (Binding depth)) (gap : Gap)
    (hapart : bindings.Pairwise fun b b' => OpenTable.Apart b.path.names b'.path.names) :
    IsValue (depth + 1) ('{' :: tableChars gap bindings)
      (.table (bindings.foldl (fun t b => insertAt b.path.names b.value t) [])) where
  head := ⟨'{', _, rfl, by decide⟩
  value rest _ := by
    cases bindings with
    | nil =>
      have hblank : isBlank '}' = false := rfl
      rw [List.cons_append, tableChars, List.append_assoc, valueWithin, tableInPlace?, skipBlanks_gap,
        List.singleton_append, skipBlanks_cons hblank]
      rfl
    | cons b more =>
      rw [List.cons_append, tableChars, List.append_assoc, valueWithin]
      exact tableInPlace?_bindings b more hapart

end TablesInPlace

end HidAccess.Toml
