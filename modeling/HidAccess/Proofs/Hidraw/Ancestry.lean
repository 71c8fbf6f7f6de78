import HidAccess.Proofs.Hidraw.LookUps

/-! Where the attributes of a HID device come from. Of the directories around it only two count, the
nearest one with an interface number and the nearest one with a vendor id, and of these only the files
that are read there. -/

namespace HidAccess
open FileTree
variable {t t' : FileTree} {place place' p q : Place} {e : Uevent} {name s : String}

theorem Text.nonBlank?_eq_some_iff {text : String} : Text.nonBlank? text = some s ↔
    Text.trim text.toList ≠ [] ∧ s = String.ofList (Text.trim text.toList) := by
  rw [Text.nonBlank?]
  split
  next hblank => simp [hblank]
  next hs =>
    rw [Option.some.injEq, eq_comm]
    exact ⟨fun h => ⟨hs, h⟩, fun h => h.2⟩

namespace FileTree

def HoldsFile (t : FileTree) (p : Place) (name : String) : Prop :=
  ∃ q content, t.walk true maxLinks p [name] = .ok q ∧ t.nodeOf? q = some (.file content)

theorem isFileFrom_iff : t.isFileFrom p name = true ↔ HoldsFile t p name := by
  rw [isFileFrom, HoldsFile]
  cases t.walk true maxLinks p [name] with
  | error e => simp
  | ok q =>
    simp only [Except.ok.injEq, exists_and_left, exists_eq_left']
    split
    next content hq => simp [hq]
    next hq => simpa using hq

theorem readTextFrom?_eq_some_iff {text : String} : t.readTextFrom? p name = some text ↔
    ∃ content, t.readFrom p name = .ok content ∧ Text.Utf8.decode? content = some text := by
  rw [readTextFrom?]
  cases t.readFrom p name with
  | error e => simp [asText, Except.toOption]
  | ok content => cases hd : Text.Utf8.decode? content <;> simp [asText, Except.toOption, hd]

end FileTree

namespace Attributes

def IsAround (place p : Place) : Prop := p <:+ place ∧ p ≠ place

/-- The nearest directory around a place with a regular file of that name. -/
structure IsNearest (t : FileTree) (name : String) (place p : Place) : Prop where
  around : IsAround place p
  holds : t.HoldsFile p name
  first : ∀ q, IsAround place q → t.HoldsFile q name → q <:+ p

def Says (t : FileTree) (p : Place) (name s : String) : Prop :=
  ∃ content text, t.readFrom p name = .ok content ∧ Text.Utf8.decode? content = some text ∧
    Text.trim text.toList ≠ [] ∧ s = String.ofList (Text.trim text.toList)

def SaysHex (t : FileTree) (p : Place) (name : String) (n : UInt16) : Prop :=
  ∃ s v, Says t p name s ∧ Text.Numeral.read? 16 65535 s.toList = some v ∧ n = UInt16.ofNat v

/-- What the files of a USB device's directory make of the attributes of a HID device in it. -/
structure IsOfDirectory (t : FileTree) (p : Place) (e : Uevent) (a : Attributes) : Prop where
  manufacturer : ∀ s, a.texts.manufacturer = some s ↔ Says t p "manufacturer" s
  product : ∀ s, a.texts.product = some s ↔
    Says t p "product" s ∨ (∀ s', ¬ Says t p "product" s') ∧ e.name = some s
  serial : ∀ s, a.texts.serial = some s ↔
    Says t p "serial" s ∨ (∀ s', ¬ Says t p "serial" s') ∧ e.uniq = some s
  release : ∀ n, a.release = some n ↔ SaysHex t p "bcdDevice" n

/-- In both trees there is a nearest directory with a file of that name, and its files say the same, or
there is none in either. -/
structure SaysAlike (name : String) (files : List String) (t t' : FileTree) (place place' : Place) :
    Prop where
  both : (∃ p, IsNearest t name place p) ↔ ∃ p', IsNearest t' name place' p'
  files : ∀ p p', IsNearest t name place p → IsNearest t' name place' p' →
    ∀ file ∈ files, ∀ s, Says t p file s ↔ Says t' p' file s

theorem isAround_cons_iff {x : String × Nat} : IsAround (x :: place) p ↔ p <:+ place := by
  rw [IsAround, List.suffix_cons_iff]
  constructor
  · rintro ⟨rfl | h, hne⟩
    · exact absurd rfl hne
    · exact h
  · intro h
    refine ⟨.inr h, ?_⟩
    rintro rfl
    have hlen := h.length_le
    rw [List.length_cons] at hlen
    omega

theorem nearest?_cons {x : String × Nat} : nearest? t name (x :: place) =
    if t.isFileFrom place name then some place else nearest? t name place := by
  rw [nearest?, around, List.find?_cons, nearest?]
  cases t.isFileFrom place name <;> rfl

theorem isNearest_cons_iff {x : String × Nat} : IsNearest t name (x :: place) p ↔
    HoldsFile t place name ∧ place = p ∨ ¬ HoldsFile t place name ∧ IsNearest t name place p := by
  constructor
  · intro h
    have hp := isAround_cons_iff.mp h.around
    by_cases hfile : HoldsFile t place name
    · have hplace := h.first place (isAround_cons_iff.mpr List.suffix_rfl) hfile
      exact .inl ⟨hfile, hplace.eq_of_length_le hp.length_le⟩
    · refine .inr ⟨hfile, ⟨hp, ?_⟩, h.holds, ?_⟩
      · rintro rfl
        exact hfile h.holds
      · intro q hq
        exact h.first q (isAround_cons_iff.mpr hq.1)
  · rintro (⟨hfile, rfl⟩ | ⟨hfile, h⟩)
    · exact ⟨isAround_cons_iff.mpr List.suffix_rfl, hfile, fun q hq _ => isAround_cons_iff.mp hq⟩
    · refine ⟨isAround_cons_iff.mpr h.around.1, h.holds, ?_⟩
      intro q hq hqfile
      refine h.first q ⟨isAround_cons_iff.mp hq, ?_⟩ hqfile
      rintro rfl
      exact hfile hqfile

theorem nearest?_eq_some_iff : nearest? t name place = some p ↔ IsNearest t name place p := by
  induction place with
  | nil =>
    constructor
    · intro h
      cases h
    · rintro ⟨⟨hp, hne⟩, -, -⟩
      exact absurd (List.suffix_nil.mp hp) hne
  | cons x rest ih =>
    rw [isNearest_cons_iff, nearest?_cons, ← isFileFrom_iff, ← ih]
    cases t.isFileFrom rest name <;> simp

theorem nearest?_eq_none_iff : nearest? t name place = none ↔ ∀ p, ¬ IsNearest t name place p := by
  simp only [← nearest?_eq_some_iff, ← Option.eq_none_iff_forall_ne_some]

theorem IsNearest.eq (hp : IsNearest t name place p) (hq : IsNearest t name place q) : p = q := by
  rw [← nearest?_eq_some_iff] at hp hq
  exact Option.some.inj (hp.symm.trans hq)

theorem text?_of_ok {bytes : Bytes} (hread : t.readFrom p name = .ok bytes)
    (hdecode : Text.Utf8.decode? bytes = some s) : text? t p name = Text.nonBlank? s := by
  rw [text?, readTextFrom?, hread, asText, hdecode]
  rfl

theorem text?_of_error {e : SystemError} (hread : t.readFrom p name = .error e) : text? t p name = none := by
  rw [text?, readTextFrom?, hread]
  rfl

theorem text?_eq_some_iff : text? t p name = some s ↔ Says t p name s := by
  simp only [text?, Option.bind_eq_some_iff, Text.nonBlank?_eq_some_iff, readTextFrom?_eq_some_iff, Says]
  constructor
  · rintro ⟨text, ⟨content, hread, hdecode⟩, hs⟩
    exact ⟨content, text, hread, hdecode, hs⟩
  · rintro ⟨content, text, hread, hdecode, hs⟩
    exact ⟨text, ⟨content, hread, hdecode⟩, hs⟩

theorem hex?_eq_some_iff {n : UInt16} : hex? t p name = some n ↔ SaysHex t p name n := by
  simp only [hex?, Option.bind_eq_some_iff, Option.map_eq_some_iff, text?_eq_some_iff, SaysHex]
  constructor
  · rintro ⟨s, hs, v, hv, rfl⟩
    exact ⟨s, v, hs, hv, rfl⟩
  · rintro ⟨s, v, hs, hv, rfl⟩
    exact ⟨s, hs, v, hv, rfl⟩

theorem orElse_eq_some_iff (o : Option String) : (text? t p name <|> o) = some s ↔
    Says t p name s ∨ (∀ s', ¬ Says t p name s') ∧ o = some s := by
  simp only [← text?_eq_some_iff]
  cases text? t p name <;> simp

theorem interface_ofUsb {n : UInt16} : (ofUsb t place e).interface = some n ↔
    ∃ p, IsNearest t interfaceFile place p ∧ SaysHex t p interfaceFile n := by
  have hsome : ((nearest? t interfaceFile place).bind fun p => hex? t p interfaceFile) = some n ↔
      ∃ p, IsNearest t interfaceFile place p ∧ SaysHex t p interfaceFile n := by
    simp only [Option.bind_eq_some_iff, nearest?_eq_some_iff, hex?_eq_some_iff]
  rw [← hsome, ofUsb]
  cases nearest? t vendorFile place <;> rfl

theorem ofUsb_alone (h : ∀ p, ¬ IsNearest t vendorFile place p) :
    (ofUsb t place e).texts = { product := e.name, serial := e.uniq } ∧
    (ofUsb t place e).release = none := by
  rw [ofUsb, nearest?_eq_none_iff.mpr h]
  exact ⟨rfl, rfl⟩

theorem isOfDirectory_ofUsb (h : IsNearest t vendorFile place p) :
    IsOfDirectory t p e (ofUsb t place e) := by
  rw [ofUsb, nearest?_eq_some_iff.mpr h]
  exact {
    manufacturer := fun s => text?_eq_some_iff
    product := fun s => orElse_eq_some_iff e.name
    serial := fun s => orElse_eq_some_iff e.uniq
    release := fun n => hex?_eq_some_iff }

variable {files : List String}

theorem saysAlike_of_text (hp : IsNearest t name place p) (hp' : IsNearest t' name place' q)
    (hfiles : ∀ file ∈ files, text? t p file = text? t' q file) :
    SaysAlike name files t t' place place' where
  both := iff_of_true ⟨p, hp⟩ ⟨q, hp'⟩
  files := by
    intro p₁ q₁ hp₁ hq₁ file hfile s
    obtain rfl := hp₁.eq hp
    obtain rfl := hq₁.eq hp'
    rw [← text?_eq_some_iff, ← text?_eq_some_iff, hfiles file hfile]

namespace SaysAlike

theorem nearest (h : SaysAlike name files t t' place place') :
    nearest? t name place = none ∧ nearest? t' name place' = none ∨
    ∃ p p', nearest? t name place = some p ∧ nearest? t' name place' = some p' ∧
      ∀ file ∈ files, text? t p file = text? t' p' file := by
  by_cases hp : ∃ p, IsNearest t name place p
  · right
    obtain ⟨p', hp'⟩ := h.both.mp hp
    obtain ⟨p, hp⟩ := hp
    refine ⟨p, p', nearest?_eq_some_iff.mpr hp, nearest?_eq_some_iff.mpr hp', ?_⟩
    intro file hfile
    ext s
    rw [text?_eq_some_iff, text?_eq_some_iff]
    exact h.files p p' hp hp' file hfile s
  · left
    have hp' := mt h.both.mpr hp
    exact ⟨nearest?_eq_none_iff.mpr (not_exists.mp hp), nearest?_eq_none_iff.mpr (not_exists.mp hp')⟩

theorem interface_eq (h : SaysAlike interfaceFile [interfaceFile] t t' place place') :
    ((nearest? t interfaceFile place).bind fun p => hex? t p interfaceFile) =
      (nearest? t' interfaceFile place').bind fun p => hex? t' p interfaceFile := by
  rcases h.nearest with ⟨hp, hp'⟩ | ⟨p, p', hp, hp', hfiles⟩
  · rw [hp, hp']
    rfl
  · have hfile := hfiles interfaceFile List.mem_cons_self
    rw [hp, hp', Option.bind_some, Option.bind_some, hex?, hex?, hfile]

theorem ofUsb_eq (hi : SaysAlike interfaceFile [interfaceFile] t t' place place')
    (hv : SaysAlike vendorFile usbFiles t t' place place') : ofUsb t place e = ofUsb t' place' e := by
  rw [ofUsb, ofUsb, hi.interface_eq]
  rcases hv.nearest with ⟨hp, hp'⟩ | ⟨p, p', hp, hp', hfiles⟩
  · rw [hp, hp']
  · have hrelease : hex? t p "bcdDevice" = hex? t' p' "bcdDevice" := by
      rw [hex?, hex?, hfiles "bcdDevice" (by decide)]
    simp only [hp, hp', hrelease, hfiles "manufacturer" (by decide), hfiles "product" (by decide),
      hfiles "serial" (by decide)]

end SaysAlike

section Hub

def behindHub (hubSerial ownSerial : Bytes) : FileTree where
  nodes := [.directory [(.text vendorFile, 4), (.text "serial", 7), (.text "dev", 1)],
    .directory [(.text vendorFile, 4), (.text "product", 5), (.text "bcdDevice", 6), (.text "if", 2)],
    .directory [(.text interfaceFile, 6), (.text "pad", 3)], .directory [(.text "serial", 8)],
    .file [49], .file [32], .file [48, 50], .file hubSerial, .file ownSerial]

def devicePlace : Place := [("dev", 1)]
def interfacePlace : Place := ("if", 2) :: devicePlace
def padPlace : Place := ("pad", 3) :: interfacePlace

def padEvent (bus : UInt16) : Uevent where
  bus
  vendorId := 1
  productId := 2
  name := some "Pad"
  uniq := some "0001"

variable {hubSerial ownSerial : Bytes}

theorem isNearest_interface :
    IsNearest (behindHub hubSerial ownSerial) interfaceFile padPlace interfacePlace := by
  rw [← nearest?_eq_some_iff]
  simp +decide [nearest?_cons, padPlace, isFileFrom, walk, interfacePlace, devicePlace, behindHub,
    entriesOf?, nodeOf?, Place.node, interfaceFile, vendorFile]

theorem isNearest_device :
    IsNearest (behindHub hubSerial ownSerial) vendorFile padPlace devicePlace := by
  rw [← nearest?_eq_some_iff]
  simp +decide [nearest?_cons, padPlace, isFileFrom, walk, interfacePlace, devicePlace, behindHub,
    entriesOf?, nodeOf?, Place.node, List.lookup_cons, interfaceFile, vendorFile]

theorem text?_of_02 (hread : t.readFrom p name = .ok [48, 50]) : text? t p name = some "02" := by
  have hdecode : Text.Utf8.decode? [48, 50] = some "02" := by decide +kernel
  rw [text?_of_ok hread hdecode]
  decide +kernel

theorem saysHex_of_02 (h : text? t p name = some "02") : SaysHex t p name 2 := by
  have hread : Text.Numeral.read? 16 65535 "02".toList = some 2 := by decide +kernel
  exact ⟨"02", 2, text?_eq_some_iff.mp h, hread, rfl⟩

theorem text?_interface :
    text? (behindHub hubSerial ownSerial) interfacePlace interfaceFile = some "02" := by
  apply text?_of_02
  simp +decide [readFrom, contentAt, walk, interfacePlace, devicePlace, behindHub, entriesOf?, nodeOf?,
    Place.node, interfaceFile]

theorem text?_device : ∀ file ∈ usbFiles, text? (behindHub hubSerial ownSerial) devicePlace file =
    if file = "bcdDevice" then some "02" else none := by
  have hread : ∀ file ∈ usbFiles, (behindHub hubSerial ownSerial).readFrom devicePlace file =
      if file = "product" then .ok [32] else if file = "bcdDevice" then .ok [48, 50]
      else .error (.call SystemError.noSuchFile) := by
    simp +decide [usbFiles, readFrom, contentAt, walk, devicePlace, behindHub, entriesOf?, nodeOf?,
      Place.node, List.lookup_cons, vendorFile]
  have hblank : Text.Utf8.decode? [32] = some " " := by decide +kernel
  intro file hfile
  have hread := hread file hfile
  by_cases hproduct : file = "product"
  · rw [if_pos hproduct] at hread
    rw [hproduct] at hread ⊢
    rw [text?_of_ok hread hblank]
    decide +kernel
  rw [if_neg hproduct] at hread
  by_cases hrelease : file = "bcdDevice"
  · rw [if_pos hrelease] at hread ⊢
    exact text?_of_02 hread
  · rw [if_neg hrelease] at hread ⊢
    exact text?_of_error hread

theorem saysAlike_behindHub {hubSerial' ownSerial' : Bytes} :
    SaysAlike interfaceFile [interfaceFile] (behindHub hubSerial ownSerial)
      (behindHub hubSerial' ownSerial') padPlace padPlace ∧
    SaysAlike vendorFile usbFiles (behindHub hubSerial ownSerial)
      (behindHub hubSerial' ownSerial') padPlace padPlace := by
  constructor
  · apply saysAlike_of_text isNearest_interface isNearest_interface
    intro file hfile
    rw [List.mem_singleton.mp hfile, text?_interface, text?_interface]
  · apply saysAlike_of_text isNearest_device isNearest_device
    intro file hfile
    rw [text?_device file hfile, text?_device file hfile]

end Hub

/-- On a bus that is not USB the attributes are those of the event file. On USB the interface number is
that of the nearest interface around and the rest that of the nearest USB device around, with the event
file for a product or serial that it does not say. What these two directories do not say has no effect. -/
theorem lookUp_from_nearest (e : Uevent) :
    (Bus.ofLinux e.bus ≠ .usb → ∀ t place,
      lookUp t place e = { texts := { product := e.name, serial := e.uniq } }) ∧
    (Bus.ofLinux e.bus = .usb → ∀ t place,
      (∀ n, (lookUp t place e).interface = some n ↔
        ∃ p, IsNearest t interfaceFile place p ∧ SaysHex t p interfaceFile n) ∧
      ((∀ p, ¬ IsNearest t vendorFile place p) →
        (lookUp t place e).texts = { product := e.name, serial := e.uniq } ∧
        (lookUp t place e).release = none) ∧
      ∀ p, IsNearest t vendorFile place p → IsOfDirectory t p e (lookUp t place e)) ∧
    ∀ t t' place place', SaysAlike interfaceFile [interfaceFile] t t' place place' →
      SaysAlike vendorFile usbFiles t t' place place' → lookUp t place e = lookUp t' place' e := by
  refine ⟨?event, ?nearest, ?alike⟩
  case event =>
    intro hbus t place
    exact if_neg hbus
  case nearest =>
    intro hbus t place
    have husb : lookUp t place e = ofUsb t place e := if_pos hbus
    rw [husb]
    exact ⟨fun n => interface_ofUsb, ofUsb_alone, fun p => isOfDirectory_ofUsb⟩
  case alike =>
    intro t t' place place' hi hv
    rw [lookUp, lookUp, hi.ofUsb_eq hv]

theorem lookUp_behindHub :
    (lookUp (behindHub [65] [66]) padPlace (padEvent 3)).interface = some 2 ∧
    (lookUp (behindHub [65] [66]) padPlace (padEvent 3)).release = some 2 ∧
    (lookUp (behindHub [65] [66]) padPlace (padEvent 3)).texts.serial = some "0001" ∧
    lookUp (behindHub [65] [66]) padPlace (padEvent 3) =
      lookUp (behindHub [67] []) padPlace (padEvent 3) ∧
    lookUp (behindHub [65] [66]) padPlace (padEvent 5) =
      { texts := { product := some "Pad", serial := some "0001" } } ∧
    (lookUp {} [] (padEvent 3)).release = none := by
  obtain ⟨-, husb, halike⟩ := lookUp_from_nearest (padEvent 3)
  obtain ⟨hother, -, -⟩ := lookUp_from_nearest (padEvent 5)
  obtain ⟨hinterface, -, hdevice⟩ := husb rfl (behindHub [65] [66]) padPlace
  have hdevice := hdevice devicePlace isNearest_device
  have hserial : ∀ s, ¬ Says (behindHub [65] [66]) devicePlace "serial" s := by
    intro s
    rw [← text?_eq_some_iff, text?_device "serial" (by decide)]
    simp
  have hrelease : text? (behindHub [65] [66]) devicePlace "bcdDevice" = some "02" :=
    text?_device "bcdDevice" (by decide)
  have hnone : ∀ p, ¬ IsNearest {} vendorFile [] p := nearest?_eq_none_iff.mp rfl
  exact ⟨(hinterface 2).mpr ⟨interfacePlace, isNearest_interface, saysHex_of_02 text?_interface⟩,
    (hdevice.release 2).mpr (saysHex_of_02 hrelease),
    (hdevice.serial "0001").mpr (.inr ⟨hserial, rfl⟩),
    halike _ _ _ _ saysAlike_behindHub.1 saysAlike_behindHub.2,
    hother (by decide) _ _,
    ((husb rfl {} []).2.1 hnone).2⟩

end Attributes

end HidAccess
