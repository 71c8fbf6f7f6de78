import HidAccess.Proofs.Hidraw.Ancestry
import HidAccess.Proofs.Hidraw.Uevent
import HidAccess.Proofs.Text.NumeralForm
import HidAccess.Proofs.Text.Split

/-! What an event file says. It describes a device when it has id lines and none of them is malformed; the
last line of each key counts, and no line but those of the three keys does. The lines that the kernel
writes about a device are read back among any others and in any order. -/

namespace HidAccess.Uevent
variable {key key' text text' : String} {line value cs : List Char} {u : Uevent} {ids : UInt16 × UInt16 × UInt16}
  {bus vendor product n : Nat} {ls others : List (List Char)}

def keys : List String := [idKey, nameKey, uniqKey]

/-- What the lines that start with this key and an equals sign have behind it, from the first line on. -/
def valuesIn (key text : String) : List (List Char) :=
  (Text.lines text.toList).filterMap (Text.dropStart? (key.toList ++ ['=']))

def Group (cs : List Char) (n : Nat) : Prop := Text.Numeral.Denotes 16 cs n ∧ n < 2 ^ 32

def Ids (value : List Char) (bus vendor product : Nat) : Prop :=
  ∃ b v p tail, value = b ++ ':' :: (v ++ ':' :: (p ++ tail)) ∧ (∀ c ∈ tail.head?, c = ':') ∧
    Group b bus ∧ Group v vendor ∧ Group p product

def IsLastText (key text s : String) : Prop :=
  ∃ value ∈ (valuesIn key text).getLast?, Text.trim value ≠ [] ∧ s = String.ofList (Text.trim value)

/-- Ids are the low halves of the groups on the last id line. -/
structure Gives (text : String) (u : Uevent) : Prop where
  ids : ∃ value ∈ (valuesIn idKey text).getLast?, ∃ bus vendor product, Ids value bus vendor product ∧
    u.bus.toNat = bus % 2 ^ 16 ∧ u.vendorId.toNat = vendor % 2 ^ 16 ∧ u.productId.toNat = product % 2 ^ 16
  name (s : String) : u.name = some s ↔ IsLastText nameKey text s
  uniq (s : String) : u.uniq = some s ↔ IsLastText uniqKey text s

section Values

theorem not_mem_of_mem_keys (h : key ∈ keys) : '=' ∉ key.toList := by
  simp only [keys, List.mem_cons, List.not_mem_nil, or_false] at h
  rcases h with rfl | rfl | rfl <;> decide

theorem keyed_entry (h : '=' ∉ key.toList) (line : List Char) :
    (Option.filter (fun e => e.1 == key) <| entry? line).map (·.2) = Text.dropStart? (key.toList ++ ['=']) line := by
  apply Option.ext
  intro value
  simp only [Option.map_eq_some_iff, Option.filter_eq_some_iff, Text.dropStart?_eq_some_iff, entry?,
    Prod.exists, Text.splitFirst?_eq_some_iff]
  constructor
  · rintro ⟨k, v, ⟨⟨before, after, ⟨rfl, -⟩, heq⟩, hkey⟩, rfl⟩
    obtain ⟨rfl, rfl⟩ := Prod.mk.inj heq
    rw [← eq_of_beq hkey]
    simp
  · rintro rfl
    exact ⟨key, value, ⟨⟨key.toList, value, ⟨by simp, h⟩, by simp⟩, by simp⟩, rfl⟩

theorem valuesOf_entries (h : '=' ∉ key.toList) (text : String) :
    valuesOf key (entries text) = valuesIn key text := by
  rw [valuesOf, entries, valuesIn, List.filter_filterMap, List.map_filterMap]
  simp only [keyed_entry h]

end Values

section Groups

theorem group?_eq_some_iff {id : UInt16} : group? cs = some id ↔ ∃ n, Group cs n ∧ UInt16.ofNat n = id := by
  simp only [group?, Option.map_eq_some_iff, Text.Numeral.read?_eq_some_iff (Nat.le_refl 16), Group]
  refine exists_congr fun n => and_congr_left fun _ => and_congr_right fun _ => ?_
  rw [Text.Numeral.max32]
  omega

theorem Group.colon (h : Group cs n) : ':' ∉ cs :=
  Text.Numeral.not_mem_of_denotes (Nat.le_refl 16) (by decide) (by decide) h.1

theorem splitAt_eq_groups_iff {b v p : List Char} :
    (∃ rest, Text.splitAt ':' value = b :: v :: p :: rest) ↔
      (':' ∉ b ∧ ':' ∉ v ∧ ':' ∉ p) ∧
        ∃ tail, value = b ++ ':' :: (v ++ ':' :: (p ++ tail)) ∧ ∀ c ∈ tail.head?, c = ':' := by
  constructor
  · rintro ⟨rest, h⟩
    obtain ⟨hb, ⟨-, hnil⟩ | ⟨value₁, rfl, h₁⟩⟩ := Text.splitAt_eq_cons_iff.mp h
    · cases hnil
    obtain ⟨hv, ⟨-, hnil⟩ | ⟨value₂, rfl, h₂⟩⟩ := Text.splitAt_eq_cons_iff.mp h₁
    · cases hnil
    obtain ⟨hp, ⟨rfl, -⟩ | ⟨more, rfl, -⟩⟩ := Text.splitAt_eq_cons_iff.mp h₂
    · exact ⟨⟨hb, hv, hp⟩, [], by simp, by simp⟩
    · exact ⟨⟨hb, hv, hp⟩, ':' :: more, rfl, by simp⟩
  · rintro ⟨⟨hb, hv, hp⟩, tail, rfl, htail⟩
    rw [Text.splitAt_append_cons hb, Text.splitAt_append_cons hv]
    cases tail with
    | nil => exact ⟨[], by simp [Text.splitAt_of_not_mem hp]⟩
    | cons c more =>
      obtain rfl : c = ':' := htail c rfl
      exact ⟨Text.splitAt ':' more, by rw [Text.splitAt_append_cons hp]⟩

theorem ids?_eq_some_iff_groups : ids? value = some ids ↔
    ∃ b v p, (∃ rest, Text.splitAt ':' value = b :: v :: p :: rest) ∧
      group? b = some ids.1 ∧ group? v = some ids.2.1 ∧ group? p = some ids.2.2 := by
  unfold ids?
  split
  · next b v p rest hsplit =>
    simp only [hsplit, Option.bind_eq_bind, Option.bind_eq_some_iff, Option.pure_def, Option.some.injEq]
    constructor
    · rintro ⟨x, hb, y, hv, z, hp, rfl⟩
      exact ⟨b, v, p, ⟨rest, rfl⟩, hb, hv, hp⟩
    · rintro ⟨_, _, _, ⟨_, heq⟩, hb, hv, hp⟩
      obtain ⟨rfl, rfl, rfl, -⟩ : b = _ ∧ v = _ ∧ p = _ ∧ rest = _ := by simpa using heq
      exact ⟨ids.1, hb, ids.2.1, hv, ids.2.2, hp, rfl⟩
  · next hshort =>
    constructor
    · intro h
      cases h
    · rintro ⟨b, v, p, ⟨rest, hsplit⟩, -⟩
      exact absurd hsplit (hshort b v p rest)

theorem ids?_eq_some_iff : ids? value = some ids ↔ ∃ bus vendor product, Ids value bus vendor product ∧
    (UInt16.ofNat bus, UInt16.ofNat vendor, UInt16.ofNat product) = ids := by
  simp only [ids?_eq_some_iff_groups, splitAt_eq_groups_iff, group?_eq_some_iff, Ids]
  constructor
  · rintro ⟨b, v, p, ⟨-, tail, rfl, htail⟩, ⟨bus, hbus, hb⟩, ⟨vendor, hvendor, hv⟩, ⟨product, hproduct, hp⟩⟩
    exact ⟨bus, vendor, product, ⟨b, v, p, tail, rfl, htail, hbus, hvendor, hproduct⟩, by rw [hb, hv, hp]⟩
  · rintro ⟨bus, vendor, product, ⟨b, v, p, tail, rfl, htail, hbus, hvendor, hproduct⟩, rfl⟩
    exact ⟨b, v, p, ⟨⟨hbus.colon, hvendor.colon, hproduct.colon⟩, tail, rfl, htail⟩,
      ⟨bus, hbus, rfl⟩, ⟨vendor, hvendor, rfl⟩, ⟨product, hproduct, rfl⟩⟩

end Groups

section Reading

theorem isId_iff : IsId value ↔ ∃ bus vendor product, Ids value bus vendor product := by
  rw [← isSome_ids?, Option.isSome_iff_exists]
  simp only [ids?_eq_some_iff]
  constructor
  · rintro ⟨_, bus, vendor, product, h, -⟩
    exact ⟨bus, vendor, product, h⟩
  · rintro ⟨bus, vendor, product, h⟩
    exact ⟨_, bus, vendor, product, h, rfl⟩

theorem idValues_eq (text : String) : idValues text = valuesIn idKey text :=
  valuesOf_entries (by decide) text

theorem read?_eq_none_iff : read? text = none ↔ valuesIn idKey text = [] ∨
    ∃ value ∈ valuesIn idKey text, ∀ bus vendor product, ¬ Ids value bus vendor product := by
  have hdescribes : Describes text ↔ valuesIn idKey text ≠ [] ∧
      ∀ value ∈ valuesIn idKey text, ∃ bus vendor product, Ids value bus vendor product := by
    simp only [← isId_iff, ← idValues_eq]
    exact ⟨fun h => ⟨h.given, h.wellFormed⟩, fun h => ⟨h.1, h.2⟩⟩
  rw [← Option.not_isSome_iff_eq_none, isSome_read?, hdescribes]
  push Not
  by_cases hnil : valuesIn idKey text = [] <;> simp [hnil]

theorem lastText_eq_some_iff (h : '=' ∉ key.toList) (s : String) :
    lastText key (entries text) = some s ↔ IsLastText key text s := by
  rw [lastText, valuesOf_entries h, Option.bind_eq_some_iff]
  simp only [Text.nonBlank?_eq_some_iff, String.toList_ofList, IsLastText, Option.mem_def]

theorem gives_of_read? (h : read? text = some u) : Gives text u := by
  obtain ⟨idList, hids, h⟩ := Option.bind_eq_some_iff.mp h
  obtain ⟨⟨bus, vendor, product⟩, hlast, h⟩ := Option.bind_eq_some_iff.mp h
  obtain rfl := Option.some.inj h
  rw [getLast?_of_mapM hids, valuesOf_entries (by decide)] at hlast
  obtain ⟨value, hvalue, hlast⟩ := Option.bind_eq_some_iff.mp hlast
  obtain ⟨bus', vendor', product', hgroups, heq⟩ := ids?_eq_some_iff.mp hlast
  obtain ⟨rfl, rfl, rfl⟩ : _ ∧ _ ∧ _ := by simpa using heq
  constructor
  · exact ⟨value, hvalue, bus', vendor', product', hgroups, by simp, by simp, by simp⟩
  · exact lastText_eq_some_iff (by decide)
  · exact lastText_eq_some_iff (by decide)

theorem read?_congr (h : ∀ key ∈ keys, valuesIn key text = valuesIn key text') :
    read? text = read? text' := by
  have hvalues (key : String) (hkey : key ∈ keys) :
      valuesOf key (entries text) = valuesOf key (entries text') := by
    rw [valuesOf_entries (not_mem_of_mem_keys hkey), valuesOf_entries (not_mem_of_mem_keys hkey), h key hkey]
  have hid := hvalues idKey (by simp [keys])
  have hname := hvalues nameKey (by simp [keys])
  have huniq := hvalues uniqKey (by simp [keys])
  simp only [read?, lastText, hid, hname, huniq]

end Reading

section Kernel

def keyLine (key : String) (value : List Char) : List Char := key.toList ++ '=' :: value

def kernelHex (width : Nat) (id : UInt16) : List Char :=
  (Text.Numeral.hex width id.toNat).toList.map Char.toUpper

def idText (bus vendor product : UInt16) : List Char :=
  kernelHex 4 bus ++ ':' :: (kernelHex 8 vendor ++ ':' :: kernelHex 8 product)

def kernelLines (bus vendor product : UInt16) (name uniq : String) : List (List Char) :=
  [keyLine idKey (idText bus vendor product), keyLine nameKey name.toList, keyLine uniqKey uniq.toList]

def ofLines (ls : List (List Char)) : String := String.ofList (ls.flatMap (· ++ ['\n']))

structure IsName (name : String) : Prop where
  nonempty : name ≠ ""
  oneLine : '\n' ∉ name.toList
  trimmed : Text.trim name.toList = name.toList

structure IsOther (line : List Char) : Prop where
  oneLine : '\n' ∉ line
  keyless : ∀ key ∈ keys, ¬ key.toList ++ ['='] <+: line

theorem group_kernelHex (width : Nat) (id : UInt16) : Group (kernelHex width id) id.toNat := by
  have hid : id.toNat ≤ Text.Numeral.max32 := Nat.le_trans (Nat.le_of_lt id.toNat_lt) (by decide)
  have hread := Text.Numeral.read?_of_digits? (Text.Numeral.digits?_hex width id.toNat) hid
  obtain ⟨hdenotes, -⟩ := (Text.Numeral.read?_eq_some_iff (Nat.le_refl 16)).mp hread
  exact ⟨hdenotes.toUpper (Nat.le_refl 16), Nat.lt_trans id.toNat_lt (by decide)⟩

theorem ids_idText (bus vendor product : UInt16) :
    Ids (idText bus vendor product) bus.toNat vendor.toNat product.toNat :=
  ⟨kernelHex 4 bus, kernelHex 8 vendor, kernelHex 8 product, [], by simp [idText], by simp,
    group_kernelHex 4 bus, group_kernelHex 8 vendor, group_kernelHex 8 product⟩

theorem not_mem_idText {c : Char} (bus vendor product : UInt16) (hplus : c ≠ '+') (hcolon : c ≠ ':')
    (hc : Text.Numeral.digit? 16 c = none) : c ∉ idText bus vendor product := by
  have hgroup (width : Nat) (id : UInt16) : c ∉ kernelHex width id :=
    Text.Numeral.not_mem_of_denotes (Nat.le_refl 16) hplus hc (group_kernelHex width id).1
  simp [idText, hgroup, hcolon]

theorem getLast?_of_trim (h : Text.trim cs = cs) : cs.getLast? ≠ some '\r' := by
  intro hlast
  have hdrop : cs.reverse = (Text.trimStart cs).reverse.dropWhile Text.isBlank := by
    rw [← List.reverse_inj, List.reverse_reverse]
    exact h.symm
  have hhead := List.head?_dropWhile_not Text.isBlank (Text.trimStart cs).reverse
  rw [← hdrop, List.head?_reverse, hlast] at hhead
  exact absurd hhead (by decide)

theorem dropReturn_keyLine (h : value.getLast? ≠ some '\r') :
    Text.dropReturn (keyLine key value) = keyLine key value := by
  apply Text.dropReturn_of_getLast?
  rw [keyLine, List.getLast?_append, List.getLast?_cons]
  cases hlast : value.getLast? with
  | none => simp
  | some c => simpa [hlast] using h

theorem keyLine_keyless (h : '=' ∉ key.toList) (h' : '=' ∉ key'.toList) (hne : key ≠ key') :
    ¬ key.toList ++ ['='] <+: keyLine key' value := by
  rintro ⟨rest, heq⟩
  rw [List.append_assoc, List.singleton_append, keyLine] at heq
  have hsplit := Text.splitFirst?_append h rest
  rw [heq, Text.splitFirst?_append h', Option.some.injEq, Prod.mk.injEq] at hsplit
  exact hne (String.toList_inj.mp hsplit.1.symm)

theorem valuesIn_ofLines (hls : ∀ l ∈ ls, '\n' ∉ l) : valuesIn key (ofLines ls) =
    (ls.map Text.dropReturn).filterMap (Text.dropStart? (key.toList ++ ['='])) := by
  rw [valuesIn, ofLines, String.toList_ofList, Text.lines_ended hls]

theorem valuesIn_of_perm (hls : ∀ l ∈ ls, '\n' ∉ l) (hperm : ls.Perm (keyLine key value :: others))
    (hvalue : value.getLast? ≠ some '\r') (hothers : ∀ l ∈ others, ¬ key.toList ++ ['='] <+: l) :
    valuesIn key (ofLines ls) = [value] := by
  rw [valuesIn_ofLines hls, ← List.perm_singleton]
  have hkey : Text.dropStart? (key.toList ++ ['=']) (Text.dropReturn (keyLine key value)) = some value := by
    rw [dropReturn_keyLine hvalue, Text.dropStart?_eq_some_iff, keyLine]
    simp
  have hnone : (others.map Text.dropReturn).filterMap (Text.dropStart? (key.toList ++ ['='])) = [] := by
    rw [List.filterMap_eq_nil_iff, List.forall_mem_map]
    intro l hl
    rw [Option.eq_none_iff_forall_not_mem]
    intro rest hrest
    have hstart : key.toList ++ ['='] <+: Text.dropReturn l :=
      ⟨rest, (Text.dropStart?_eq_some_iff.mp hrest).symm⟩
    exact hothers l hl (hstart.trans (Text.dropReturn_prefix l))
  have hall := (hperm.map Text.dropReturn).filterMap (Text.dropStart? (key.toList ++ ['=']))
  rwa [List.map_cons, List.filterMap_cons_some hkey, hnone] at hall

theorem read?_of_values {bus vendor product : UInt16} {name uniq : String} (hname : IsName name)
    (huniq : IsName uniq) (hid : valuesIn idKey text = [idText bus vendor product])
    (hnames : valuesIn nameKey text = [name.toList]) (huniqs : valuesIn uniqKey text = [uniq.toList]) :
    read? text = some ⟨bus, vendor, product, some name, some uniq⟩ := by
  have hids : ids? (idText bus vendor product) = some (bus, vendor, product) :=
    ids?_eq_some_iff.mpr ⟨_, _, _, ids_idText bus vendor product, by simp⟩
  have hlast (key name : String) (hkey : '=' ∉ key.toList) (hname : IsName name)
      (hvalues : valuesIn key text = [name.toList]) : lastText key (entries text) = some name := by
    rw [lastText_eq_some_iff hkey]
    refine ⟨name.toList, by simp [hvalues], ?_, ?_⟩
    · simpa [hname.trimmed] using hname.nonempty
    · simp [hname.trimmed]
  simp [read?, valuesOf_entries (by decide : '=' ∉ idKey.toList), hid, hids,
    hlast nameKey name (by decide) hname hnames, hlast uniqKey uniq (by decide) huniq huniqs]

theorem keyLine_oneLine (h : '\n' ∉ key.toList) (h' : '\n' ∉ value) : '\n' ∉ keyLine key value := by
  simp [keyLine, h, h']

theorem oneLine_kernelLines {bus vendor product : UInt16} {name uniq : String} (hname : IsName name)
    (huniq : IsName uniq) : ∀ l ∈ kernelLines bus vendor product name uniq, '\n' ∉ l := by
  have hid := not_mem_idText (c := '\n') bus vendor product (by decide) (by decide) (by decide)
  simp only [kernelLines, List.forall_mem_cons]
  exact ⟨keyLine_oneLine (by decide) hid, keyLine_oneLine (by decide) hname.oneLine,
    keyLine_oneLine (by decide) huniq.oneLine, List.forall_mem_nil _⟩

theorem keyless_rest {key₁ key₂ : String} {value₁ value₂ : List Char} (hkeys : [key, key₁, key₂].Perm keys)
    (hothers : ∀ l ∈ others, IsOther l) :
    ∀ l ∈ keyLine key₁ value₁ :: keyLine key₂ value₂ :: others, ¬ key.toList ++ ['='] <+: l := by
  have hnodup : [key, key₁, key₂].Nodup := hkeys.nodup_iff.mpr (by decide)
  have hmem : ∀ k ∈ [key, key₁, key₂], k ∈ keys := fun k hk => hkeys.mem_iff.mp hk
  simp only [List.nodup_cons, List.mem_cons, List.not_mem_nil, or_false, not_or] at hnodup
  simp only [List.forall_mem_cons] at hmem ⊢
  have hfree := not_mem_of_mem_keys hmem.1
  exact ⟨keyLine_keyless hfree (not_mem_of_mem_keys hmem.2.1) hnodup.1.1,
    keyLine_keyless hfree (not_mem_of_mem_keys hmem.2.2.1) hnodup.1.2,
    fun l hl => (hothers l hl).keyless key hmem.1⟩

theorem read?_ofLines {bus vendor product : UInt16} {name uniq : String} (hname : IsName name)
    (huniq : IsName uniq) (hothers : ∀ l ∈ others, IsOther l)
    (hperm : ls.Perm (kernelLines bus vendor product name uniq ++ others)) :
    read? (ofLines ls) = some ⟨bus, vendor, product, some name, some uniq⟩ := by
  have hls : ∀ l ∈ ls, '\n' ∉ l := by
    intro l hl
    rcases List.mem_append.mp (hperm.mem_iff.mp hl) with hl | hl
    · exact oneLine_kernelLines hname huniq l hl
    · exact (hothers l hl).oneLine
  -- Each of the three lines is brought to the front in turn; none of the rest has its key.
  have hids : ls.Perm (keyLine idKey (idText bus vendor product) :: keyLine nameKey name.toList ::
    keyLine uniqKey uniq.toList :: others) := hperm
  have hnames := hids.trans (List.Perm.swap _ _ _)
  have huniqs := hids.trans (@List.perm_middle _ (keyLine uniqKey uniq.toList)
    [keyLine idKey (idText bus vendor product), keyLine nameKey name.toList] others)
  have hreturn : (idText bus vendor product).getLast? ≠ some '\r' := fun hlast =>
    not_mem_idText bus vendor product (by decide) (by decide) (by decide) (List.mem_of_getLast? hlast)
  apply read?_of_values hname huniq
  · exact valuesIn_of_perm hls hids hreturn (keyless_rest (by decide) hothers)
  · exact valuesIn_of_perm hls hnames (getLast?_of_trim hname.trimmed) (keyless_rest (by decide) hothers)
  · exact valuesIn_of_perm hls huniqs (getLast?_of_trim huniq.trimmed) (keyless_rest (by decide) hothers)

end Kernel

theorem event_file_format :
    (∀ text, read? text = none ↔ valuesIn idKey text = [] ∨
      ∃ value ∈ valuesIn idKey text, ∀ bus vendor product, ¬ Ids value bus vendor product) ∧
    (∀ text u, read? text = some u → Gives text u) ∧
    (∀ text text', (∀ key ∈ keys, valuesIn key text = valuesIn key text') → read? text = read? text') ∧
    ∀ (bus vendor product : UInt16) (name uniq : String) (others ls : List (List Char)),
      IsName name → IsName uniq → (∀ l ∈ others, IsOther l) →
      ls.Perm (kernelLines bus vendor product name uniq ++ others) →
        read? (ofLines ls) = some ⟨bus, vendor, product, some name, some uniq⟩ := by
  refine ⟨fun _ => read?_eq_none_iff, fun _ _ => gives_of_read?, fun _ _ => read?_congr, ?_⟩
  intro bus vendor product name uniq others ls hname huniq hothers hperm
  exact read?_ofLines hname huniq hothers hperm

theorem controller_file_read :
    let ls := ["DRIVER=sony".toList, keyLine uniqKey "a4:ae:12:00:11:22".toList,
      keyLine nameKey "Wireless Controller = 2".toList, keyLine idKey (idText 0x0005 0x054C 0x09CC)]
    ofLines ls = "DRIVER=sony\nHID_UNIQ=a4:ae:12:00:11:22\nHID_NAME=Wireless Controller = 2\n" ++
        "HID_ID=0005:0000054C:000009CC\n" ∧
      read? (ofLines ls) = some ⟨0x0005, 0x054C, 0x09CC, some "Wireless Controller = 2", some "a4:ae:12:00:11:22"⟩ := by
  have hname : IsName "Wireless Controller = 2" := ⟨by decide, by decide, by decide⟩
  have huniq : IsName "a4:ae:12:00:11:22" := ⟨by decide, by decide, by decide⟩
  have hother : ∀ l ∈ ["DRIVER=sony".toList], IsOther l := by
    rintro l (_ | ⟨_, ⟨⟩⟩)
    exact ⟨by decide, by decide⟩
  have hperm := List.reverse_perm (kernelLines 0x0005 0x054C 0x09CC "Wireless Controller = 2"
    "a4:ae:12:00:11:22" ++ ["DRIVER=sony".toList])
  exact ⟨by decide, event_file_format.2.2.2 _ _ _ _ _ _ _ hname huniq hother hperm⟩

end HidAccess.Uevent
