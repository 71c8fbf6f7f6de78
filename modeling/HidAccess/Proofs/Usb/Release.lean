import HidAccess.Proofs.Hidraw.Ancestry
import HidAccess.Proofs.Hidraw.NodeListing
import HidAccess.Proofs.Text.NumeralForm
import HidAccess.Proofs.Usb.Reopening

/-! The release number of a USB device. On the way into the listing it is decoded to a major number of two
digits and encoded again. This brings it back if the units of the major number are a decimal digit; if not,
they are carried into the tens. The kernel's listing has the number as the device states it. -/

namespace HidAccess

namespace UsbRelease
variable {bcd a b c d : UInt16}

def units (bcd : UInt16) : Nat := bcd.toNat / 256 % 16

theorem toNat_digit (bcd : UInt16) {k : UInt16} {n : Nat} (hk : k.toNat = n) (hn : n < 16) :
    ((bcd >>> k) &&& 0xF).toUInt8.toNat = bcd.toNat / 2 ^ n % 16 := by
  have hmask (m : Nat) : m &&& 15 = m % 16 := Nat.and_two_pow_sub_one_eq_mod m 4
  simp only [UInt16.toNat_toUInt8, UInt16.toNat_and, UInt16.toNat_shiftRight, hk, Nat.mod_eq_of_lt hn,
    Nat.shiftRight_eq_div_pow, show (0xF : UInt16).toNat = 15 from rfl, hmask]
  omega

theorem toNat_places (hb : b.toNat < 16) (hc : c.toNat < 16) (hd : d.toNat < 16) :
    ((a <<< 12) ||| (b <<< 8) ||| (c <<< 4) ||| d).toNat =
      a.toNat % 16 * 4096 + b.toNat * 256 + c.toNat * 16 + d.toNat := by
  have ha : (a <<< 12).toNat = (a.toNat % 16) <<< 12 := by
    simp only [UInt16.toNat_shiftLeft, show (12 : UInt16).toNat % 16 = 12 from rfl, Nat.shiftLeft_eq]
    omega
  have hb' : (b <<< 8).toNat = b.toNat <<< 8 := by
    simp only [UInt16.toNat_shiftLeft, show (8 : UInt16).toNat % 16 = 8 from rfl, Nat.shiftLeft_eq]
    omega
  have hc' : (c <<< 4).toNat = c.toNat <<< 4 := by
    simp only [UInt16.toNat_shiftLeft, show (4 : UInt16).toNat % 16 = 4 from rfl, Nat.shiftLeft_eq]
    omega
  -- Where a number fits below the shift the bits of the two are apart.
  have hlow := Nat.shiftLeft_add_eq_or_of_lt (i := 4) hd c.toNat
  have hmiddle := Nat.shiftLeft_add_eq_or_of_lt (i := 8) (b := c.toNat <<< 4 + d.toNat)
    (by rw [Nat.shiftLeft_eq]; omega) b.toNat
  have hhigh := Nat.shiftLeft_add_eq_or_of_lt (i := 12) (b := b.toNat <<< 8 + (c.toNat <<< 4 + d.toNat))
    (by simp only [Nat.shiftLeft_eq]; omega) (a.toNat % 16)
  simp only [UInt16.toNat_or, ha, hb', hc', Nat.or_assoc, ← hlow, ← hmiddle, ← hhigh]
  simp only [Nat.shiftLeft_eq]
  omega

theorem toNat_major (bcd : UInt16) : (ofBcd bcd).major.toNat = 10 * (bcd.toNat / 4096 % 16) + units bcd := by
  have htens : ((bcd >>> 12) &&& 0xF).toUInt8.toNat = bcd.toNat / 4096 % 16 := toNat_digit bcd rfl (by decide)
  have hunits : ((bcd >>> 8) &&& 0xF).toUInt8.toNat = units bcd := toNat_digit bcd rfl (by decide)
  have hfits : 10 * (bcd.toNat / 4096 % 16) + units bcd < 256 := by
    rw [units]
    omega
  simp only [ofBcd, UInt8.toNat_add, UInt8.toNat_mul, htens, hunits, show (10 : UInt8).toNat = 10 from rfl,
    Nat.mod_add_mod]
  exact Nat.mod_eq_of_lt hfits

theorem toNat_minor (bcd : UInt16) : (ofBcd bcd).minor.toNat = bcd.toNat / 16 % 16 :=
  toNat_digit bcd rfl (by decide)

theorem toNat_subMinor (bcd : UInt16) : (ofBcd bcd).subMinor.toNat = bcd.toNat % 16 := by
  have hdigit := toNat_digit bcd (k := 0) rfl (by decide)
  simpa [ofBcd] using hdigit

theorem toNat_toBcd (bcd : UInt16) : (ofBcd bcd).toBcd.toNat =
    (bcd.toNat / 4096 + units bcd / 10) % 16 * 4096 + units bcd % 10 * 256 + bcd.toNat % 256 := by
  have hmajor := toNat_major bcd
  have hminor := toNat_minor bcd
  have hsub := toNat_subMinor bcd
  have hten : (10 : UInt16).toNat = 10 := rfl
  rw [toBcd, toNat_places]
  · simp only [UInt16.toNat_div, UInt16.toNat_mod, UInt8.toNat_toUInt16, hmajor, hminor, hsub, hten]
    have hbcd := bcd.toNat_lt
    omega
  · rw [UInt16.toNat_mod, hten]
    omega
  · rw [UInt8.toNat_toUInt16, hminor]
    omega
  · rw [UInt8.toNat_toUInt16, hsub]
    omega

/-- Units from ten on are carried: the tens are one more and the units ten less. -/
theorem toBcd_ofBcd (bcd : UInt16) : (ofBcd bcd).toBcd = if units bcd < 10 then bcd else bcd + 0x600 := by
  have hvalue := toNat_toBcd bcd
  have hbcd := bcd.toNat_lt
  apply UInt16.toNat_inj.mp
  rw [hvalue, units]
  split
  · omega
  · rw [UInt16.toNat_add, show (0x600 : UInt16).toNat = 0x600 from rfl]
    omega

theorem toBcd_ofBcd_eq_iff : (ofBcd bcd).toBcd = bcd ↔ units bcd < 10 := by
  rw [toBcd_ofBcd]
  split
  next h => simp [h]
  next h => simp [h]

end UsbRelease

section Kernel
open FileTree
variable {t : FileTree} {p : Place} {bcd : UInt16} {paths : HidrawPaths} {e : DeviceEntry}

/-- The file of the release holds four digits and a line feed. -/
def Attributes.ShowsRelease (t : FileTree) (p : Place) (bcd : UInt16) : Prop :=
  ∃ content, t.readFrom p "bcdDevice" = .ok content ∧
    Text.Utf8.decode? content = some (Text.Numeral.hex 4 bcd.toNat ++ "\n")

theorem Attributes.ShowsRelease.saysHex (h : ShowsRelease t p bcd) : SaysHex t p "bcdDevice" bcd := by
  obtain ⟨content, hread, hdecode⟩ := h
  have hdigits := Text.Numeral.digits?_hex 4 bcd.toNat
  have htrim : Text.trim (Text.Numeral.hex 4 bcd.toNat ++ "\n").toList = (Text.Numeral.hex 4 bcd.toNat).toList := by
    rw [String.toList_append]
    exact Text.Numeral.trim_line hdigits
  have hne : (Text.Numeral.hex 4 bcd.toNat).toList ≠ [] := by
    intro hnil
    rw [hnil] at hdigits
    cases hdigits
  have hsays : Says t p "bcdDevice" (Text.Numeral.hex 4 bcd.toNat) :=
    ⟨content, _, hread, hdecode, by rwa [htrim], by rw [htrim, String.ofList_toList]⟩
  have hle : bcd.toNat ≤ 65535 := Nat.le_of_lt_succ bcd.toNat_lt
  exact ⟨_, bcd.toNat, hsays, Text.Numeral.read?_of_digits? hdigits hle, UInt16.ofNat_toNat.symm⟩

/-- The entry of a node that belongs to a USB device of this release. -/
def HidrawPaths.Describes (paths : HidrawPaths) (t : FileTree) (bcd : UInt16) (e : DeviceEntry) : Prop :=
  ∃ name place event q, paths.describe? t name = some e ∧ paths.deviceOf? t name = some (place, event) ∧
    Bus.ofLinux event.bus = .usb ∧ Attributes.IsNearest t Attributes.vendorFile place q ∧
    Attributes.ShowsRelease t q bcd

theorem HidrawPaths.Describes.release (h : paths.Describes t bcd e) : e.releaseNumber = bcd := by
  obtain ⟨name, place, event, q, hdescribe, hdevice, husb, hnearest, hshows⟩ := h
  have hrelease : (Attributes.lookUp t place event).release = some bcd := by
    rw [Attributes.lookUp, if_pos husb]
    exact ((Attributes.isOfDirectory_ofUsb hnearest).release bcd).mpr hshows.saysHex
  rw [describe?, hdevice] at hdescribe
  obtain rfl := Option.some.inj hdescribe
  simp [entryOf, hrelease]

end Kernel

namespace HidrawPaths
open FileTree

def kernelPadBytes : Bytes := [72, 73, 68, 95, 73, 68, 61, 51, 58, 49, 58, 50, 10]

def kernelPad : FileTree where
  nodes := [.directory [(.text "c", 1), (.text "usb", 3)], .directory [(.text "hidraw0", 2)],
    .directory [(.text "device", 8)],
    .directory [(.text "idVendor", 5), (.text "bcdDevice", 6), (.text "hid", 4)],
    .directory [(.text "uevent", 7)], .file [], .file [48, 49, 49, 48, 10], .file kernelPadBytes, .link "/usb/hid"]

def kernelPadPlace : Place := [("hid", 4), ("usb", 3)]

theorem deviceOf?_kernelPad : sample.deviceOf? kernelPad "hidraw0" =
    some (kernelPadPlace, { bus := 3, vendorId := 1, productId := 2 }) := by
  have hpath : components (sample.devicePath "hidraw0") = ["", "c", "hidraw0", "device"] := by
    decide
  have hlink : components "/usb/hid" = ["", "usb", "hid"] := by decide
  have hr : kernelPad.resolve (sample.devicePath "hidraw0") true = .ok kernelPadPlace := by
    simp +decide [resolve, hpath, walk, hlink, kernelPad, kernelPadPlace, entriesOf?, nodeOf?, Place.node,
      List.lookup_cons, maxLinks]
  have hread : kernelPad.readFrom kernelPadPlace "uevent" = .ok kernelPadBytes := by
    simp +decide [readFrom, contentAt, walk, kernelPad, kernelPadPlace, entriesOf?, nodeOf?, Place.node]
  have hdecode : Text.Utf8.decode? kernelPadBytes = some "HID_ID=3:1:2\n" := by decide +kernel
  have hevent : Uevent.read? "HID_ID=3:1:2\n" = some { bus := 3, vendorId := 1, productId := 2 } := by
    decide +kernel
  rw [deviceOf?_of_ok hr, readTextFrom?, hread, asText, hdecode, Except.toOption,
    Option.bind_some, hevent]
  rfl

theorem exists_describes_kernelPad : ∃ e', sample.Describes kernelPad 0x0110 e' := by
  have hdevice := deviceOf?_kernelPad
  have hnearest : Attributes.nearest? kernelPad Attributes.vendorFile kernelPadPlace = some [("usb", 3)] := by
    simp +decide [Attributes.nearest?_cons, isFileFrom, walk, kernelPad, kernelPadPlace, entriesOf?, nodeOf?,
      Place.node, Attributes.vendorFile]
  have hread : kernelPad.readFrom [("usb", 3)] "bcdDevice" = .ok [48, 49, 49, 48, 10] := by
    simp +decide [readFrom, contentAt, walk, kernelPad, entriesOf?, nodeOf?, Place.node]
  have hdecode : Text.Utf8.decode? [48, 49, 49, 48, 10] = some (Text.Numeral.hex 4 0x0110 ++ "\n") := by
    decide +kernel
  have hdescribe : (sample.describe? kernelPad "hidraw0").isSome := by
    rw [describe?, hdevice]
    rfl
  obtain ⟨e', he'⟩ := Option.isSome_iff_exists.mp hdescribe
  exact ⟨e', "hidraw0", kernelPadPlace, _, [("usb", 3)], he', hdevice, by decide,
    Attributes.nearest?_eq_some_iff.mp hnearest, _, hread, hdecode⟩

end HidrawPaths

namespace UsbBus

/-- What is listed of each interface has the release of its device, as the device states it and as the
kernel shows it, exactly if the units of the major number are a decimal digit. -/
theorem listed_release_iff (devices : List UsbDevice) (as : List Action) :
    let bus := ((Traffic.start devices).run as).bus
    ∀ entries, bus.enumerate.1 = .ok entries →
      List.Forall₂ (fun (i : HidInterface) (e : DeviceEntry) =>
        bus.devices[i.index]? = some i.device ∧ e.path = i.path.text ∧
        (e.releaseNumber = i.device.bcdRelease ↔ UsbRelease.units i.device.bcdRelease < 10) ∧
        ∀ (paths : HidrawPaths) (t : FileTree) (e' : DeviceEntry), paths.Describes t i.device.bcdRelease e' →
          (e.releaseNumber = e'.releaseNumber ↔ UsbRelease.units i.device.bcdRelease < 10))
        bus.listed entries := by
  intro bus entries hentries
  have hn : bus.table.Numbered := (Traffic.run_balanced devices as).numbered
  cases hl : bus.listError with
  | some x =>
    rw [enumerate_of_listError hl] at hentries
    cases hentries
  | none =>
    rw [(enumerate_eq hn hl).1] at hentries
    obtain rfl := Except.ok.inj hentries
    rw [List.forall₂_map_right_iff, List.forall₂_same]
    intro i hi
    refine ⟨(mem_present.mp (mem_listed.mp hi).1).1, rfl, UsbRelease.toBcd_ofBcd_eq_iff, ?_⟩
    intro paths t e' hdescribes
    rw [hdescribes.release]
    exact UsbRelease.toBcd_ofBcd_eq_iff

theorem pad_release_listed :
    let bus := (Traffic.start [{ pad 0 with bcdRelease := 0x0110 }]).bus
    ∃ e e', bus.enumerate.1 = .ok [e] ∧ HidrawPaths.sample.Describes HidrawPaths.kernelPad 0x0110 e' ∧
      e.releaseNumber = 0x0110 ∧ e.releaseNumber = e'.releaseNumber := by
  obtain ⟨e', he'⟩ := HidrawPaths.exists_describes_kernelPad
  have hall := listed_release_iff [{ pad 0 with bcdRelease := 0x0110 }] [] _ rfl
  obtain ⟨-, -, hrelease, hkernel⟩ := (List.forall₂_cons.mp hall).1
  exact ⟨_, e', rfl, he', hrelease.mpr (by decide), (hkernel _ _ _ he').mpr (by decide)⟩

theorem hexadecimal_release_carried :
    let bus := (Traffic.start [{ pad 0 with bcdRelease := 0x0A00 }]).bus
    bus.enumerate.1.toOption.map (List.map (·.releaseNumber)) = some [0x1000] := by
  decide

end UsbBus

end HidAccess
