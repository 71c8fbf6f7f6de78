import HidAccess.ReportDescriptor.Usage

/-! Items and their bytes. What is read off the front of a descriptor is the item that was written
there, unless a short item begins like a long one. -/

namespace HidAccess.ReportDescriptor

namespace Item

/-- The tag leaves the size bits free, and the data are of a size that can be written. -/
def Sized : Item → Prop
  | .short tag data => tag &&& 0x03 = 0 ∧ data.length ∈ [0, 1, 2, 4]
  | .long _ data => data.length ≤ 255

/-- A short item whose first byte is that of a long one. -/
def IsMarked : Item → Prop
  | .short tag data => tag ||| sizeBits data.length = longMark
  | .long _ _ => False

instance : DecidablePred Sized
  | .short tag data => inferInstanceAs (Decidable (tag &&& 0x03 = 0 ∧ data.length ∈ [0, 1, 2, 4]))
  | .long _ data => inferInstanceAs (Decidable (data.length ≤ 255))

instance : DecidablePred IsMarked
  | .short tag data => inferInstanceAs (Decidable (tag ||| sizeBits data.length = longMark))
  | .long _ _ => inferInstanceAs (Decidable False)

def Readable (item : Item) : Prop := item.Sized ∧ ¬ item.IsMarked

instance : DecidablePred Readable := fun item =>
  inferInstanceAs (Decidable (item.Sized ∧ ¬ item.IsMarked))

end Item

theorem forall_uint8 {p : UInt8 → Prop} (h : ∀ n : Fin 256, p (.ofFin n)) (b : UInt8) : p b :=
  h b.toFin

theorem tagOf_or : ∀ tag : UInt8, tag &&& 0x03 = 0 →
    ∀ n ∈ [0, 1, 2, 4], tagOf (tag ||| sizeBits n) = tag ∧ sizeOf (tag ||| sizeBits n) = n :=
  forall_uint8 (by decide +kernel)

theorem first_eq : ∀ first : UInt8, tagOf first &&& 0x03 = 0 ∧ sizeOf first ∈ [0, 1, 2, 4] ∧
    tagOf first ||| sizeBits (sizeOf first) = first :=
  forall_uint8 (by decide +kernel)

theorem takeExactly_append (data rest : Bytes) :
    takeExactly data.length (data ++ rest) = some (data, rest) := by
  simp [takeExactly]

theorem takeExactly_some {n : Nat} {bs data rest : Bytes}
    (h : takeExactly n bs = some (data, rest)) : data.length = n ∧ bs = data ++ rest := by
  simp only [takeExactly] at h
  split at h
  next hn =>
    cases h
    exact ⟨List.length_take_of_le hn, (List.take_append_drop n bs).symm⟩
  next => cases h

namespace Item

theorem encode_length_pos (item : Item) : 0 < item.encode.length := by
  cases item <;> simp [encode]

theorem next?_encode {item : Item} (hr : item.Readable) (rest : Bytes) :
    next? (item.encode ++ rest) = some (item, rest) := by
  obtain ⟨hs, hm⟩ := hr
  cases item with
  | short tag data =>
    obtain ⟨ht, hn⟩ := hs
    obtain ⟨htag, hsize⟩ := tagOf_or tag ht data.length hn
    have hfirst : tag ||| sizeBits data.length ≠ longMark := hm
    simp [encode, next?, hfirst, htag, hsize, takeExactly_append]
  | long tag data =>
    have hlen : data.length < 256 := Nat.lt_succ_of_le hs
    simp [encode, next?, Nat.mod_eq_of_lt hlen, takeExactly_append]

theorem next?_some {bs rest : Bytes} {item : Item} (h : next? bs = some (item, rest)) :
    item.Readable ∧ bs = item.encode ++ rest := by
  cases bs with
  | nil => cases h
  | cons first bs =>
    simp only [next?] at h
    split at h
    next hmark =>
      subst hmark
      split at h
      next size tag bs =>
        obtain ⟨⟨data, rest'⟩, hx, he⟩ := Option.map_eq_some_iff.mp h
        cases he
        obtain ⟨hlen, rfl⟩ := takeExactly_some hx
        have hsize : UInt8.ofNat data.length = size := by rw [hlen, UInt8.ofNat_toNat]
        refine ⟨⟨?_, not_false⟩, by simp [encode, hsize]⟩
        have := size.toNat_lt
        simp only [Sized, hlen]
        omega
      next => cases h
    next hfirst =>
      obtain ⟨⟨data, rest'⟩, hx, he⟩ := Option.map_eq_some_iff.mp h
      cases he
      obtain ⟨hlen, rfl⟩ := takeExactly_some hx
      obtain ⟨htag, hsize, hback⟩ := first_eq first
      refine ⟨⟨⟨htag, hlen ▸ hsize⟩, ?_⟩, ?_⟩
      · simpa only [IsMarked, hlen, hback] using hfirst
      · simp [encode, hlen, hback]

end Item

def encodeAll (items : List Item) : Bytes := items.flatMap Item.encode

theorem length_encodeAll (items : List Item) : items.length ≤ (encodeAll items).length := by
  induction items with
  | nil => exact Nat.zero_le _
  | cons item items ih =>
    have := item.encode_length_pos
    simp only [encodeAll, List.flatMap_cons, List.length_append, List.length_cons] at ih ⊢
    omega

/-- All bytes are items and then the beginning of one that is cut off, perhaps before its first
byte. -/
theorem exists_items (bs : Bytes) : ∃ items rest, bs = encodeAll items ++ rest ∧
    (∀ item ∈ items, item.Readable) ∧ Item.next? rest = none := by
  cases hn : Item.next? bs with
  | none => exact ⟨[], bs, rfl, by simp, hn⟩
  | some x =>
    obtain ⟨item, bs'⟩ := x
    obtain ⟨hr, rfl⟩ := Item.next?_some hn
    obtain ⟨items, rest, rfl, hitems, hrest⟩ := exists_items bs'
    refine ⟨item :: items, rest, by simp [encodeAll], ?_, hrest⟩
    exact List.forall_mem_cons.mpr ⟨hr, hitems⟩
termination_by bs.length
decreasing_by
  have := item.encode_length_pos
  simp_all

end HidAccess.ReportDescriptor
