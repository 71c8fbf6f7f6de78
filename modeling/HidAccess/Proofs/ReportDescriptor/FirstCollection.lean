import HidAccess.Proofs.ReportDescriptor.Items

/-! The usage of a descriptor as its items tell it. The first collection is labelled by the first
usage and the last page before it; nothing else before it counts, and nothing behind it. -/

namespace HidAccess.ReportDescriptor

def Item.data? (tag : UInt8) : Item → Option Bytes
  | .short tag' data => if tag' = tag then some data else none
  | .long _ _ => none

def dataOf (tag : UInt8) (items : List Item) : List Bytes := items.filterMap (Item.data? tag)

def Item.IsCollection (item : Item) : Prop := (item.data? collectionTag).isSome = true

instance : DecidablePred Item.IsCollection := fun item =>
  inferInstanceAs (Decidable ((item.data? collectionTag).isSome = true))

def label (usage : Bytes) (page : Option Bytes) : Option (UInt16 × UInt16) :=
  (if usage.length = 4 then some (UInt16.ofNat (number usage / 65536))
    else page.map fun data => UInt16.ofNat (number data)).map
  fun page => (page, UInt16.ofNat (number usage))

namespace Context

def outside (usages pages : List Bytes) : Context where
  page := pages.getLast?.map fun data => UInt16.ofNat (number data)
  usage := usages.head?.map .ofData

theorem item_outside {item : Item} (hc : ¬ item.IsCollection) (usages pages : List Bytes) :
    (outside usages pages).item item =
      .reading (outside (usages ++ (item.data? usageTag).toList)
        (pages ++ (item.data? usagePageTag).toList)) := by
  cases item with
  | long tag data => simp [Context.item, Item.data?]
  | short tag data =>
    have hcollection : tag ≠ collectionTag := fun he => hc (by simp [Item.IsCollection, Item.data?, he])
    by_cases hpage : tag = usagePageTag
    · subst hpage
      simp [Context.item, Item.data?, outside, usagePageTag, usageTag]
    by_cases husage : tag = usageTag
    · subst husage
      cases usages <;> simp [Context.item, Item.data?, outside, usagePageTag, usageTag]
    · simp [Context.item, Item.data?, hpage, husage, hcollection, outside]

theorem item_collection {item : Item} (hc : item.IsCollection) {usage : Bytes}
    (usages pages : List Bytes) :
    (outside (usage :: usages) pages).item item = .answer (label usage pages.getLast?) := by
  cases item with
  | long tag data => cases hc
  | short tag data =>
    obtain rfl : tag = collectionTag := by
      simpa [Item.IsCollection, Item.data?] using hc
    by_cases h4 : usage.length = 4 <;>
      simp [Context.item, outside, openCollection, label, NamedUsage.ofData, h4, usagePageTag,
        usageTag, collectionTag, Option.map_map, Function.comp_def]

end Context

theorem search_encode {item : Item} (hr : item.Readable) (fuel : Nat) (c : Context) (rest : Bytes) :
    search (fuel + 1) c (item.encode ++ rest) = match c.item item with
      | .answer usage => usage
      | .reading c => search fuel c rest := by
  cases hx : c.item item <;> simp only [search, Item.next?_encode hr, hx]

theorem search_outside {items : List Item} (hi : ∀ item ∈ items, item.Readable ∧ ¬ item.IsCollection)
    (fuel : Nat) (usages pages : List Bytes) (rest : Bytes) :
    search (items.length + fuel) (.outside usages pages) (encodeAll items ++ rest) =
      search fuel (.outside (usages ++ dataOf usageTag items) (pages ++ dataOf usagePageTag items))
        rest := by
  induction items generalizing usages pages with
  | nil => simp [encodeAll, dataOf]
  | cons item items ih =>
    obtain ⟨⟨hr, hc⟩, hi⟩ := List.forall_mem_cons.mp hi
    have hcons : encodeAll (item :: items) ++ rest =
        item.encode ++ (encodeAll items ++ rest) := by simp [encodeAll]
    have hdata (tag : UInt8) : dataOf tag (item :: items) =
        (item.data? tag).toList ++ dataOf tag items := by
      cases h : item.data? tag <;> simp [dataOf, h]
    rw [hcons, List.length_cons, Nat.add_right_comm, search_encode hr, Context.item_outside hc]
    simp only [ih hi, hdata, List.append_assoc]

theorem search_incomplete {rest : Bytes} (hn : Item.next? rest = none) (fuel : Nat) (c : Context) :
    search fuel c rest = none := by
  cases fuel with
  | zero => rfl
  | succ fuel => rw [search, hn]

/-- Before the first collection of a descriptor, the first usage and the last page label it; a
descriptor without a collection has no usage, wherever it ends. -/
theorem topLevelUsage_of_items :
    (∀ (before : List Item) (collection : Item) (behind usage : Bytes),
      (∀ item ∈ before, item.Readable ∧ ¬ item.IsCollection) →
      collection.Readable → collection.IsCollection →
      (dataOf usageTag before).head? = some usage →
      topLevelUsage (encodeAll before ++ (collection.encode ++ behind)) =
        label usage (dataOf usagePageTag before).getLast?) ∧
    (∀ bs : Bytes,
      (∀ before (collection : Item) behind, (∀ item ∈ before, item.Readable) →
        collection.Readable →
        bs = encodeAll before ++ (collection.encode ++ behind) → ¬ collection.IsCollection) →
      topLevelUsage bs = none) := by
  constructor
  · intro before collection behind usage hb hr hc hu
    obtain ⟨usages, hu⟩ := List.head?_eq_some_iff.mp hu
    have hlen : before.length + 1 ≤
        (encodeAll before ++ (collection.encode ++ behind)).length := by
      have := length_encodeAll before
      have := collection.encode_length_pos
      simp only [List.length_append]
      omega
    obtain ⟨fuel, hfuel⟩ := Nat.exists_eq_add_of_le hlen
    rw [topLevelUsage, hfuel, Nat.add_assoc, Nat.add_comm 1 fuel]
    rw [show ({} : Context) = .outside [] [] from rfl, search_outside hb, search_encode hr]
    simp [hu, Context.item_collection hc]
  · intro bs hbs
    obtain ⟨items, rest, rfl, hitems, hrest⟩ := exists_items bs
    have hnone : ∀ item ∈ items, item.Readable ∧ ¬ item.IsCollection := by
      intro item hm
      obtain ⟨before, after, rfl⟩ := List.append_of_mem hm
      refine ⟨hitems item hm, hbs before item (encodeAll after ++ rest) ?_ (hitems item hm) ?_⟩
      · exact fun item hm => hitems item (List.mem_append_left _ hm)
      · simp [encodeAll]
    obtain ⟨fuel, hfuel⟩ := Nat.exists_eq_add_of_le (Nat.le_trans (length_encodeAll items)
      (List.length_append ▸ Nat.le_add_right _ rest.length))
    rw [topLevelUsage, hfuel, show ({} : Context) = .outside [] [] from rfl, search_outside hnone,
      search_incomplete hrest]

theorem topLevelUsage_behind_long_item :
    topLevelUsage [0xFE, 2, 0x10, 0xAA, 0xBB, 0x05, 0x0C, 0x09, 1, 0xA1, 1] = some (0x0C, 1) :=
  topLevelUsage_of_items.1
    [.long 0x10 [0xAA, 0xBB], .short usagePageTag [0x0C], .short usageTag [1]]
    (.short collectionTag [1]) [] [1] (by decide) (by decide) (by decide) (by decide)

/-- The first byte of a short item with the tag 0xFC and two data bytes is that of a long item, which
is read in its place and takes the page, the usage and the collection with it. -/
theorem marked_item_hides_collection :
    ¬ ∀ (before : List Item) (collection : Item) (behind usage : Bytes),
      (∀ item ∈ before, item.Sized ∧ ¬ item.IsCollection) →
      collection.Sized → collection.IsCollection →
      (dataOf usageTag before).head? = some usage →
      topLevelUsage (encodeAll before ++ (collection.encode ++ behind)) =
        label usage (dataOf usagePageTag before).getLast? := by
  intro h
  have hx := h [.short 0xFC [1, 0], .short usagePageTag [1], .short usageTag [6]]
    (.short collectionTag [1]) [] [6] (by decide) (by decide) (by decide) (by decide)
  exact absurd hx (by decide)

end HidAccess.ReportDescriptor
