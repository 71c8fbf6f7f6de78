import HidAccess.DeviceEntry
import HidAccess.DeviceId
import HidAccess.Proofs.Text.Blank
import HidAccess.Proofs.Text.NumeralForm
import HidAccess.Proofs.Text.Split

/-! Ids are read by their form, with blanks around it or none. The texts of ids in a listing are among the
texts that are read, each as the id that it stands for. -/

namespace HidAccess.DeviceId
open Text.Numeral (Denotes)
variable {s : String} {cs digits : List Char} {n : UInt16} {v : Nat}

/-- In hexadecimal behind `0x` or `0X`, else in decimal. -/
def Spells (cs : List Char) (n : UInt16) : Prop :=
  (∃ digits, (cs = '0' :: 'x' :: digits ∨ cs = '0' :: 'X' :: digits) ∧ Denotes 16 digits n.toNat) ∨
    Denotes 10 cs n.toNat

theorem marked?_eq_some_iff :
    (Text.dropStart? ['0', 'x'] cs <|> Text.dropStart? ['0', 'X'] cs) = some digits ↔
      cs = '0' :: 'x' :: digits ∨ cs = '0' :: 'X' :: digits := by
  have hlower (rest : List Char) : Text.dropStart? ['0', 'x'] cs = some rest ↔ cs = '0' :: 'x' :: rest :=
    Text.dropStart?_eq_some_iff
  have hupper (rest : List Char) : Text.dropStart? ['0', 'X'] cs = some rest ↔ cs = '0' :: 'X' :: rest :=
    Text.dropStart?_eq_some_iff
  cases hx : Text.dropStart? ['0', 'x'] cs with
  | some rest =>
    obtain rfl := (hlower rest).mp hx
    simp
  | none =>
    have hne : cs ≠ '0' :: 'x' :: digits := by
      intro heq
      rw [(hlower digits).mpr heq] at hx
      cases hx
    simp [hne, hupper]

theorem readTrimmed?_eq_some_iff : readTrimmed? cs = some v ↔
    ((∃ digits, (cs = '0' :: 'x' :: digits ∨ cs = '0' :: 'X' :: digits) ∧ Denotes 16 digits v) ∨
      Denotes 10 cs v) ∧ v ≤ limit := by
  unfold readTrimmed?
  split
  next digits hmark =>
    rw [Text.Numeral.read?_eq_some_iff (Nat.le_refl 16)]
    refine and_congr_left fun _ => ?_
    constructor
    · intro h
      exact .inl ⟨digits, marked?_eq_some_iff.mp hmark, h⟩
    · rintro (⟨digits', hcs, h⟩ | h)
      · obtain rfl : digits' = digits :=
          Option.some.inj ((marked?_eq_some_iff.mpr hcs).symm.trans hmark)
        exact h
      · -- The letter of the mark is no decimal digit.
        have hfree {c : Char} (hplus : c ≠ '+') (hc : Text.Numeral.digit? 10 c = none) : c ∉ cs :=
          Text.Numeral.not_mem_of_denotes (by decide) hplus hc h
        obtain rfl | rfl := marked?_eq_some_iff.mp hmark
        · exact absurd (by simp) (hfree (c := 'x') (by decide) (by decide))
        · exact absurd (by simp) (hfree (c := 'X') (by decide) (by decide))
  next hmark =>
    rw [Text.Numeral.read?_eq_some_iff (by decide)]
    refine and_congr_left fun _ => ?_
    constructor
    · exact .inr
    · rintro (⟨digits, hcs, -⟩ | h)
      · rw [marked?_eq_some_iff.mpr hcs] at hmark
        cases hmark
      · exact h

theorem readTrimmed?_eq_some_iff_spells :
    (readTrimmed? cs).map UInt16.ofNat = some n ↔ Spells cs n := by
  simp only [Option.map_eq_some_iff, readTrimmed?_eq_some_iff]
  constructor
  · rintro ⟨v, ⟨hform, hle⟩, rfl⟩
    rwa [Spells, UInt16.toNat_ofNat_of_lt' (Nat.lt_succ_of_le hle)]
  · intro h
    exact ⟨n.toNat, ⟨h, Nat.le_of_lt_succ n.toNat_lt⟩, UInt16.ofNat_toNat⟩

theorem read?_eq_some_iff :
    read? s = some n ↔ ∃ core, Text.IsCore s.toList core ∧ Spells core n := by
  simp only [read?, readTrimmed?_eq_some_iff_spells, ← Text.trim_eq_iff, exists_eq_left']

theorem toList_idText (n : UInt16) :
    (DeviceEntry.idText n).toList = '0' :: 'x' :: (Text.Numeral.hex 4 n.toNat).toList := by
  simp [DeviceEntry.idText, DeviceEntry.idDigits]

theorem spells_idText (n : UInt16) : Spells (DeviceEntry.idText n).toList n := by
  have hread : Text.Numeral.read? 16 n.toNat (Text.Numeral.hex 4 n.toNat).toList = some n.toNat :=
    Text.Numeral.read?_of_digits? (Text.Numeral.digits?_hex 4 n.toNat) (Nat.le_refl _)
  exact .inl ⟨_, .inl (toList_idText n), ((Text.Numeral.read?_eq_some_iff (Nat.le_refl 16)).mp hread).1⟩

theorem isBare_idText (n : UInt16) : Text.IsBare (DeviceEntry.idText n).toList := by
  have hdigits := Text.Numeral.isBlank_of_digits? (Text.Numeral.digits?_hex 4 n.toNat)
  rw [toList_idText]
  apply Text.isBare_of_forall
  exact List.forall_mem_cons.mpr ⟨by decide, List.forall_mem_cons.mpr ⟨by decide, hdigits⟩⟩

theorem read?_idText (n : UInt16) : read? (DeviceEntry.idText n) = some n :=
  read?_eq_some_iff.mpr ⟨_, (isBare_idText n).isCore, spells_idText n⟩

/-- Between blanks stands an id that is spelled in one of the two ways, whatever the zeros in front; no
other text is an id. The texts that a listing has for the ids of a device are read as these ids. -/
theorem ids_read_by_form :
    (∀ s n, read? s = some n ↔ ∃ core, Text.IsCore s.toList core ∧ Spells core n) ∧
    ∀ e : DeviceEntry, (e.fields.lookup "vendor_id").bind read? = some e.vendorId ∧
      (e.fields.lookup "product_id").bind read? = some e.productId := by
  refine ⟨fun s n => read?_eq_some_iff, ?_⟩
  intro e
  have hvendor : e.fields.lookup "vendor_id" = some (DeviceEntry.idText e.vendorId) := rfl
  have hproduct : e.fields.lookup "product_id" = some (DeviceEntry.idText e.productId) := rfl
  rw [hvendor, hproduct, Option.bind_some, Option.bind_some]
  exact ⟨read?_idText e.vendorId, read?_idText e.productId⟩

/-- Blanks beyond ASCII, a sign and zeros; a mark alone, and the first number that is too large. -/
example : read? "\u2003+00065535\n" = some 65535 ∧ read? "0x" = none ∧ read? "65536" = none := by
  decide +kernel

end HidAccess.DeviceId
