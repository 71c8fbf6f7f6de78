import HidAccess.Proofs.ReportDescriptor.FirstCollection

/-! Descriptors whose first collection has no usage in front of it. The search does not end there: it
takes the first usage that stands outside all collections, however late, and the collection that comes
next has its label. -/

namespace HidAccess.ReportDescriptor

/-- How many collections are open behind an item. One that closes a collection where none is open has
no effect. -/
def Item.nesting (depth : Nat) (item : Item) : Nat :=
  if item.IsCollection then depth + 1
  else if (item.data? endCollectionTag).isSome then depth - 1
  else depth

def nesting (depth : Nat) (items : List Item) : Nat := items.foldl Item.nesting depth

def usagesOutside (depth : Nat) : List Item → List Bytes
  | [] => []
  | item :: items =>
    (if depth = 0 then (item.data? usageTag).toList else []) ++ usagesOutside (item.nesting depth) items

/-- The first usage outside all collections, and the collection that comes next. -/
structure NamesNext (depth : Nat) (items inside between behind : List Item) (name opening : Item)
    (usage : Bytes) : Prop where
  items_eq : items = inside ++ name :: (between ++ opening :: behind)
  unnamed : usagesOutside depth inside = []
  closed : nesting depth inside = 0
  named : name.data? usageTag = some usage
  unopened : ∀ item ∈ between, ¬ item.IsCollection
  opens : opening.IsCollection

section
variable {depth : Nat} {item : Item} {items : List Item} {usage : Bytes}

theorem dataOf_cons (tag : UInt8) (item : Item) (items : List Item) :
    dataOf tag (item :: items) = (item.data? tag).toList ++ dataOf tag items := by
  cases h : item.data? tag <;> simp [dataOf, h]

theorem dataOf_append (tag : UInt8) (items items' : List Item) :
    dataOf tag (items ++ items') = dataOf tag items ++ dataOf tag items' :=
  List.filterMap_append

namespace Context

def within (depth : Nat) (pages : List Bytes) : Context := { outside [] pages with depth }

theorem item_within (hu : depth = 0 → item.data? usageTag = none) (pages : List Bytes) :
    (within depth pages).item item =
      .reading (within (item.nesting depth) (pages ++ (item.data? usagePageTag).toList)) := by
  cases item with
  | long tag data => simp [Context.item, Item.data?, Item.nesting, Item.IsCollection]
  | short tag data =>
    by_cases hpage : tag = usagePageTag
    · subst hpage
      simp [Context.item, within, outside, Item.data?, Item.nesting, Item.IsCollection, usagePageTag,
        collectionTag, endCollectionTag]
    by_cases husage : tag = usageTag
    · subst husage
      have hdepth : depth ≠ 0 := fun h => by simpa [Item.data?] using hu h
      simp [Context.item, within, outside, Item.data?, Item.nesting, Item.IsCollection, usagePageTag,
        usageTag, collectionTag, endCollectionTag, hdepth]
    by_cases hopen : tag = collectionTag
    · subst hopen
      cases depth <;> simp [Context.item, openCollection, within, outside, Item.data?, Item.nesting,
        Item.IsCollection, usagePageTag, usageTag, collectionTag]
    by_cases hend : tag = endCollectionTag
    · subst hend
      simp [Context.item, within, outside, Item.data?, Item.nesting, Item.IsCollection, usagePageTag,
        usageTag, collectionTag, endCollectionTag]
    · simp [Context.item, within, outside, Item.data?, Item.nesting, Item.IsCollection, hpage, husage,
        hopen, hend]

theorem item_names (hn : item.data? usageTag = some usage) (pages : List Bytes) :
    (within 0 pages).item item = .reading (outside [usage] pages) := by
  cases item with
  | long tag data => cases hn
  | short tag data =>
    simp only [Item.data?, Option.ite_none_right_eq_some, Option.some.injEq] at hn
    obtain ⟨rfl, rfl⟩ := hn
    simp [Context.item, within, outside, usagePageTag, usageTag]

end Context

theorem search_within (hi : ∀ item ∈ items, item.Readable) (hu : usagesOutside depth items = [])
    (fuel : Nat) (pages : List Bytes) (rest : Bytes) :
    search (items.length + fuel) (.within depth pages) (encodeAll items ++ rest) =
      search fuel (.within (nesting depth items) (pages ++ dataOf usagePageTag items)) rest := by
  induction items generalizing depth pages with
  | nil => simp [encodeAll, dataOf, nesting]
  | cons item items ih =>
    obtain ⟨hr, hi⟩ := List.forall_mem_cons.mp hi
    obtain ⟨hitem, hu⟩ := List.append_eq_nil_iff.mp hu
    have hnone : depth = 0 → item.data? usageTag = none := by
      intro h
      simpa [h] using hitem
    have hcons : encodeAll (item :: items) ++ rest =
        item.encode ++ (encodeAll items ++ rest) := by simp [encodeAll]
    rw [hcons, List.length_cons, Nat.add_right_comm, search_encode hr, Context.item_within hnone]
    simp only [ih hi hu, dataOf_cons, List.append_assoc, nesting, List.foldl_cons]

theorem search_past_name {inside behind : List Item} {name : Item}
    (hi : ∀ item ∈ inside ++ name :: behind, item.Readable) (hu : usagesOutside depth inside = [])
    (hn : nesting depth inside = 0) (hnamed : name.data? usageTag = some usage) (fuel : Nat)
    (pages : List Bytes) (rest : Bytes) :
    search ((inside ++ name :: behind).length + fuel) (.within depth pages)
        (encodeAll (inside ++ name :: behind) ++ rest) =
      search (behind.length + fuel) (.outside [usage] (pages ++ dataOf usagePageTag inside))
        (encodeAll behind ++ rest) := by
  obtain ⟨hinside, hbehind⟩ := List.forall_mem_append.mp hi
  obtain ⟨hname, -⟩ := List.forall_mem_cons.mp hbehind
  have hbytes : encodeAll (inside ++ name :: behind) ++ rest =
      encodeAll inside ++ (name.encode ++ (encodeAll behind ++ rest)) := by simp [encodeAll]
  have hfuel : (inside ++ name :: behind).length + fuel =
      inside.length + (behind.length + fuel + 1) := by
    simp only [List.length_append, List.length_cons]
    omega
  rw [hbytes, hfuel, search_within hinside hu, hn, search_encode hname, Context.item_names hnamed]

theorem search_namesNext {inside between behind : List Item} {name opening : Item}
    (h : NamesNext depth items inside between behind name opening usage)
    (hi : ∀ item ∈ items, item.Readable) (fuel : Nat) (pages : List Bytes) (rest : Bytes) :
    search (items.length + fuel) (.within depth pages) (encodeAll items ++ rest) =
      label usage (pages ++ dataOf usagePageTag (inside ++ between)).getLast? := by
  obtain ⟨rfl, hunnamed, hclosed, hnamed, hunopened, hopens⟩ := h
  rw [search_past_name hi hunnamed hclosed hnamed]
  simp only [List.forall_mem_append, List.forall_mem_cons] at hi
  obtain ⟨-, -, hbetween, hopening, -⟩ := hi
  have hbytes : encodeAll (between ++ opening :: behind) ++ rest =
      encodeAll between ++ (opening.encode ++ (encodeAll behind ++ rest)) := by simp [encodeAll]
  have hfuel : (between ++ opening :: behind).length + fuel =
      between.length + (behind.length + fuel + 1) := by
    simp only [List.length_append, List.length_cons]
    omega
  rw [hbytes, hfuel, search_outside (fun item hm => ⟨hbetween item hm, hunopened item hm⟩),
    search_encode hopening, List.singleton_append, Context.item_collection hopens, dataOf_append,
    List.append_assoc]

theorem usagesOutside_cases (depth : Nat) (items : List Item) :
    usagesOutside depth items = [] ∨
    ∃ inside name behind usage, items = inside ++ name :: behind ∧ usagesOutside depth inside = [] ∧
      nesting depth inside = 0 ∧ name.data? usageTag = some usage := by
  induction items generalizing depth with
  | nil => exact .inl rfl
  | cons item items ih =>
    by_cases hnamed : depth = 0 ∧ (item.data? usageTag).isSome
    · obtain ⟨rfl, hsome⟩ := hnamed
      obtain ⟨usage, husage⟩ := Option.isSome_iff_exists.mp hsome
      exact .inr ⟨[], item, items, usage, rfl, rfl, rfl, husage⟩
    have hitem : (if depth = 0 then (item.data? usageTag).toList else []) = [] := by
      split
      next hdepth => simpa [hdepth] using hnamed
      next => rfl
    rcases ih (item.nesting depth) with hnone | ⟨inside, name, behind, usage, rfl, hu, hn, hnamed⟩
    · left
      rw [usagesOutside, hitem, hnone, List.nil_append]
    · refine .inr ⟨item :: inside, name, behind, usage, rfl, ?_, hn, hnamed⟩
      rw [usagesOutside, hitem, hu, List.nil_append]

theorem collection_cases (items : List Item) : (∀ item ∈ items, ¬ item.IsCollection) ∨
    ∃ between opening behind, items = between ++ opening :: behind ∧
      (∀ item ∈ between, ¬ item.IsCollection) ∧ opening.IsCollection := by
  cases hf : items.find? (fun item => decide item.IsCollection) with
  | none => exact .inl (by simpa using hf)
  | some opening =>
    obtain ⟨hopening, between, behind, rfl, hbetween⟩ := List.find?_eq_some_iff_append.mp hf
    exact .inr ⟨between, opening, behind, rfl, by simpa using hbetween, by simpa using hopening⟩

/-- Items that do not name a collection give no answer, wherever the bytes end. -/
theorem search_of_not_namesNext
    (hnot : ∀ inside between behind name opening usage,
      ¬ NamesNext depth items inside between behind name opening usage)
    (hi : ∀ item ∈ items, item.Readable) {cut : Bytes} (hcut : Item.next? cut = none) (fuel : Nat)
    (pages : List Bytes) :
    search (items.length + fuel) (.within depth pages) (encodeAll items ++ cut) = none := by
  rcases usagesOutside_cases depth items with hu | ⟨inside, name, behind, usage, rfl, hu, hn, hnamed⟩
  · rw [search_within hi hu, search_incomplete hcut]
  rcases collection_cases behind with hb | ⟨between, opening, behind, rfl, hb, ho⟩
  · rw [search_past_name hi hu hn hnamed]
    have hbehind : ∀ item ∈ behind, item.Readable := fun item hm =>
      hi item (List.mem_append_right _ (List.mem_cons_of_mem _ hm))
    rw [search_outside (fun item hm => ⟨hbehind item hm, hb item hm⟩), search_incomplete hcut]
  · exact absurd ⟨rfl, hu, hn, hnamed, hb, ho⟩ (hnot inside between behind name opening usage)

theorem Item.IsCollection.data?_eq_none (hc : item.IsCollection) (tag : UInt8)
    (ht : tag ≠ collectionTag) : item.data? tag = none := by
  cases item with
  | long tag data => rfl
  | short tag' data =>
    obtain rfl : tag' = collectionTag := by simpa [Item.IsCollection, Item.data?] using hc
    simp [Item.data?, ht.symm]

theorem topLevelUsage_unnamed {before : List Item} {collection : Item}
    (hb : ∀ item ∈ before, item.Readable ∧ ¬ item.IsCollection ∧ item.data? usageTag = none)
    (hr : collection.Readable) (hc : collection.IsCollection) (items : List Item) (cut : Bytes) :
    ∃ fuel, topLevelUsage (encodeAll before ++ (collection.encode ++ (encodeAll items ++ cut))) =
      search (items.length + fuel) (.within 1 (dataOf usagePageTag before))
        (encodeAll items ++ cut) := by
  have hlen : before.length + 1 + items.length ≤
      (encodeAll before ++ (collection.encode ++ (encodeAll items ++ cut))).length := by
    have := length_encodeAll before
    have := length_encodeAll items
    have := collection.encode_length_pos
    simp only [List.length_append]
    omega
  obtain ⟨fuel, hfuel⟩ := Nat.exists_eq_add_of_le hlen
  have hfuel' : before.length + 1 + items.length + fuel =
      before.length + (items.length + fuel + 1) := by omega
  have hnone : dataOf usageTag before = [] :=
    List.filterMap_eq_nil_iff.mpr fun item hm => (hb item hm).2.2
  have hstart (pages : List Bytes) : Context.outside [] pages = .within 0 pages := rfl
  refine ⟨fuel, ?_⟩
  rw [topLevelUsage, hfuel, hfuel', show ({} : Context) = .outside [] [] from rfl,
    search_outside fun item hm => ⟨(hb item hm).1, (hb item hm).2.1⟩, search_encode hr, hnone,
    List.append_nil, hstart, Context.item_within fun _ => hc.data?_eq_none _ (by decide)]
  simp [Item.nesting, hc, hc.data?_eq_none usagePageTag (by decide)]

/-- A descriptor whose first collection no usage precedes takes the label of a later one: of the first
collection behind the first usage outside all collections. It has no usage exactly if there is no such
collection, or no page for it. -/
theorem unnamed_first_collection (before items : List Item) (collection : Item) (cut : Bytes)
    (hb : ∀ item ∈ before, item.Readable ∧ ¬ item.IsCollection ∧ item.data? usageTag = none)
    (hr : collection.Readable) (hc : collection.IsCollection)
    (hi : ∀ item ∈ items, item.Readable) (hcut : Item.next? cut = none) :
    let usage? := topLevelUsage
      (encodeAll before ++ (collection.encode ++ (encodeAll items ++ cut)))
    (usage? = none ↔ ∀ inside between behind name opening usage,
      NamesNext 1 items inside between behind name opening usage →
        label usage (dataOf usagePageTag (before ++ inside ++ between)).getLast? = none) ∧
    ∀ inside between behind name opening usage,
      NamesNext 1 items inside between behind name opening usage →
        usage? = label usage (dataOf usagePageTag (before ++ inside ++ between)).getLast? := by
  intro usage?
  obtain ⟨fuel, hsearch⟩ := topLevelUsage_unnamed hb hr hc items cut
  have hnamed : ∀ inside between behind name opening usage,
      NamesNext 1 items inside between behind name opening usage →
        usage? = label usage (dataOf usagePageTag (before ++ inside ++ between)).getLast? := by
    intro inside between behind name opening usage h
    rw [List.append_assoc, dataOf_append]
    exact hsearch.trans (search_namesNext h hi fuel _ cut)
  refine ⟨⟨?unlabelled, ?none⟩, hnamed⟩
  case unlabelled =>
    intro hnone inside between behind name opening usage h
    exact (hnamed _ _ _ _ _ _ h).symm.trans hnone
  case none =>
    intro hall
    by_cases hnext : ∃ inside between behind name opening usage,
        NamesNext 1 items inside between behind name opening usage
    · obtain ⟨inside, between, behind, name, opening, usage, h⟩ := hnext
      exact (hnamed _ _ _ _ _ _ h).trans (hall _ _ _ _ _ _ h)
    · simp only [not_exists] at hnext
      exact hsearch.trans (search_of_not_namesNext hnext hi hcut fuel _)

theorem usagesOutside_append (depth : Nat) (items items' : List Item) :
    usagesOutside depth (items ++ items') =
      usagesOutside depth items ++ usagesOutside (nesting depth items) items' := by
  induction items generalizing depth with
  | nil => rfl
  | cons item items ih => simp [usagesOutside, nesting, ih]

theorem NamesNext.usagesOutside_ne_nil {inside between behind : List Item} {name opening : Item}
    (h : NamesNext depth items inside between behind name opening usage) :
    usagesOutside depth items ≠ [] := by
  rw [h.items_eq, usagesOutside_append, h.closed, usagesOutside, h.named]
  simp

end

theorem topLevelUsage_of_inner_usage :
    topLevelUsage [0x05, 1, 0xA1, 1, 0x09, 6, 0xA1, 0, 0xC0, 0xC0, 0xA1, 1, 0xC0, 0x09] = none :=
  (unnamed_first_collection [.short usagePageTag [1]]
    [.short usageTag [6], .short collectionTag [0], .short endCollectionTag [],
      .short endCollectionTag [], .short collectionTag [1], .short endCollectionTag []]
    (.short collectionTag [1]) [0x09] (by decide) (by decide) (by decide) (by decide) rfl).1.mpr
    fun _ _ _ _ _ _ h => absurd (by decide) h.usagesOutside_ne_nil

theorem later_collection_named :
    ¬ ∀ (before : List Item) (collection : Item) (continuation : Bytes),
      (∀ item ∈ before, item.Readable ∧ ¬ item.IsCollection ∧ item.data? usageTag = none) →
      collection.Readable → collection.IsCollection →
      topLevelUsage (encodeAll before ++ (collection.encode ++ continuation)) = none := by
  intro h
  have hnone := h [.short usagePageTag [1]] (.short collectionTag [1])
    [0xC0, 0x09, 6, 0xA1, 1] (by decide) (by decide) (by decide)
  have hlabel : topLevelUsage [0x05, 1, 0xA1, 1, 0xC0, 0x09, 6, 0xA1, 1] = some (1, 6) := by decide
  exact absurd (hlabel.symm.trans hnone) (by decide)

end HidAccess.ReportDescriptor
