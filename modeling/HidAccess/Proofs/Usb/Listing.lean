import HidAccess.Proofs.Usb.Claims
import HidAccess.Proofs.Usb.Path
import Mathlib.Data.List.Nodup

/-! What is listed of a USB bus. A device is asked for the languages of its strings, for its strings, and
for the report descriptor of each HID interface, in this order; each answer is its own, so what a device
does not tell is missing from its own entries and from nothing else. -/

namespace HidAccess

namespace UsbDevice

def asked (k : Nat) (d : UsbDevice) : UsbDevice :=
  { d with controlFailures := d.controlFailures.drop k }

def stringRequest (index : UInt8) (language : UInt16) : UsbControl where
  requestType := standardDeviceIn
  request := getDescriptor
  value := typed stringDescriptor index
  index := language

def usageRequest (interface : UInt8) : UsbControl where
  requestType := standardInterfaceIn
  request := getDescriptor
  value := typed reportDescriptor 0
  index := interface.toUInt16

section Replies
variable (d : UsbDevice) (k : Nat)

def reply (c : UsbControl) (size : Nat) : Except UsbError Received :=
  match d.controlFailures[k]? with
  | some f => (UsbBus.failureCount f).map fun n => ⟨n, List.replicate size 0⟩
  | none => (d.respond c).map fun bytes => .fill (List.replicate size 0) (bytes.take size)

def words (index : UInt8) (language : UInt16) : Except UsbError (List Nat) :=
  match d.reply k (stringRequest index language) UsbBus.stringSize with
  | .ok r => UsbBus.descriptorWords r
  | .error e => .error e

def string? (language : Nat) (index : UInt8) : Option String :=
  if index = 0 then none
  else match d.words k index (UInt16.ofNat language) with
    | .ok words => (Text.Utf16.decode? words).filter fun s => !s.isEmpty
    | .error _ => none

def requests (index : UInt8) : Nat := if index = 0 then 0 else 1

def language? : Option Nat :=
  match d.words 0 0 0 with
  | .ok languages => languages.head?
  | .error _ => none

def textsIn (language : Nat) : DeviceTexts where
  manufacturer := d.string? 1 language d.manufacturerIndex
  product := d.string? (1 + requests d.manufacturerIndex) language d.productIndex
  serial := d.string? (1 + requests d.manufacturerIndex + requests d.productIndex) language
    d.serialIndex

def texts : DeviceTexts := d.language?.elim {} d.textsIn

def textRequests : Nat :=
  d.language?.elim 1 fun _ =>
    1 + requests d.manufacturerIndex + requests d.productIndex + requests d.serialIndex

def usage? (interface : UInt8) : Option (UInt16 × UInt16) :=
  match d.reply k (usageRequest interface) UsbBus.descriptorSize with
  | .ok r => ReportDescriptor.topLevelUsage r.report
  | .error _ => none

end Replies

/-- The first settings of the HID interfaces, if the device has no class of its own. -/
def hidSettings (d : UsbDevice) : List UsbSetting :=
  if d.descriptorError = none ∧ d.deviceClass = 0 ∧ d.configurationError = none then
    (d.interfaces.filterMap List.head?).filter fun s => s.interfaceClass == 3
  else []

end UsbDevice

/-- A HID interface on a bus: its device, how many HID interfaces of the device come before it, and its
first setting. -/
structure HidInterface where
  index : Nat
  device : UsbDevice
  position : Nat
  setting : UsbSetting

namespace HidInterface

def path (i : HidInterface) : UsbPath := i.device.pathOf i.setting.number

def texts (i : HidInterface) : DeviceTexts :=
  if i.device.openError = none then i.device.texts else {}

def usage? (i : HidInterface) : Option (UInt16 × UInt16) :=
  if i.device.openError = none then
    i.device.usage? (i.device.textRequests + i.position) i.setting.number
  else none

def entry (i : HidInterface) : DeviceEntry where
  path := i.path.text
  vendorId := i.device.vendorId
  productId := i.device.productId
  serialNumber := i.texts.serial
  releaseNumber := (UsbRelease.ofBcd i.device.bcdRelease).toBcd
  manufacturer := i.texts.manufacturer
  product := i.texts.product
  usagePage := i.usage?.map (·.1)
  usage := i.usage?.map (·.2)
  interfaceNumber := Int32.ofInt i.setting.number.toNat
  bus := .usb

end HidInterface

def UsbDevice.listed (index : Nat) (d : UsbDevice) : List HidInterface :=
  d.hidSettings.mapIdx fun position setting => ⟨index, d, position, setting⟩

def UsbBus.listed (bus : UsbBus) : List HidInterface := bus.present.flatMap fun x => x.2.listed x.1

namespace UsbDevice
variable {d : UsbDevice} {j k : Nat}

theorem asked_asked (j k : Nat) (d : UsbDevice) : (d.asked j).asked k = d.asked (j + k) := by
  simp [asked]

theorem reply_asked (c : UsbControl) (size : Nat) : (d.asked k).reply 0 c size = d.reply k c size := by
  have hf : (d.asked k).controlFailures[0]? = d.controlFailures[k]? := by simp [asked]
  simp only [reply, hf]
  rfl

theorem hidInterfaces_of_listed (h : d.isListed = true) :
    d.hidInterfaces = d.hidSettings.map fun s => (s.number, s.pipes) := by
  obtain ⟨hdesc, hclass⟩ : d.descriptorError = none ∧ d.deviceClass = 0 := by
    simpa [isListed] using h
  cases hc : d.configurationError with
  | some e => simp [hidInterfaces, hidSettings, hc]
  | none =>
    simp only [hidInterfaces, hidSettings, hc, hdesc, hclass, and_self, if_true]
    induction d.interfaces.filterMap List.head? with
    | nil => rfl
    | cons s ss ih =>
      by_cases hs : s.interfaceClass = 3
      · simpa [hs, UsbSetting.hidClass] using ih
      · simpa [hs, UsbSetting.hidClass] using ih

theorem hidSettings_of_not_listed (h : d.isListed = false) : d.hidSettings = [] := by
  have hno : ¬ (d.descriptorError = none ∧ d.deviceClass = 0 ∧ d.configurationError = none) := by
    rintro ⟨hdesc, hclass, -⟩
    simp [isListed, hdesc, hclass] at h
  rw [hidSettings, if_neg hno]

end UsbDevice

namespace UsbBus
variable {bus bus' bus'' : UsbBus} {id i j k : Nat} {d : UsbDevice}

section Requests

theorem getElem?_change (index j : Nat) (f : UsbDevice → UsbDevice) (bus : UsbBus) :
    (bus.change index f).devices[j]? = bus.devices[j]?.map fun d => if index = j then f d else d := by
  simp [change, List.getElem?_modify]

theorem change_congr {f g : UsbDevice → UsbDevice} (hd : bus.devices[i]? = some d)
    (hf : f d = g d) : bus.change i f = bus.change i g := by
  have hdevices : (bus.change i f).devices = (bus.change i g).devices := by
    apply List.ext_getElem?
    intro j
    rw [getElem?_change, getElem?_change]
    by_cases hj : i = j
    · subst hj
      simp [hd, hf]
    · simp [hj]
  exact congrArg (fun devices => { bus with devices }) hdevices

theorem change_self {f : UsbDevice → UsbDevice} (hd : bus.devices[i]? = some d) (hf : f d = d) :
    bus.change i f = bus := by
  have hid : bus.change i (fun d => d) = bus := by
    have hdevices : (bus.change i fun d => d).devices = bus.devices := by
      apply List.ext_getElem?
      intro j
      simp [getElem?_change]
    exact congrArg (fun devices => { bus with devices }) hdevices
  rw [change_congr hd (g := fun d => d) hf, hid]

def OnlyAsked (i k : Nat) (bus bus' : UsbBus) : Prop :=
  ∃ calls, bus' = { bus.change i (UsbDevice.asked k) with calls }

theorem OnlyAsked.trans (h : OnlyAsked i j bus bus') (h' : OnlyAsked i k bus' bus'') :
    OnlyAsked i (j + k) bus bus'' := by
  obtain ⟨calls, rfl⟩ := h
  obtain ⟨calls', rfl⟩ := h'
  refine ⟨calls', ?_⟩
  simp only [change, List.modify_modify_eq, Function.comp_def, UsbDevice.asked_asked]

theorem OnlyAsked.zero (i : Nat) (bus : UsbBus) : OnlyAsked i 0 bus bus := by
  refine ⟨bus.calls, ?_⟩
  have hid : UsbDevice.asked 0 = id := rfl
  simp [change, hid]

def HandleOn (id i : Nat) (d : UsbDevice) (k : Nat) (bus : UsbBus) : Prop :=
  bus.deviceOf id = .ok (i, d.asked k)

theorem deviceOf_eq_ok :
    bus.deviceOf id = .ok (i, d) ↔ (∃ h, bus.handle? id = some h ∧ h.device = i) ∧
      bus.devices[i]? = some d ∧ d.attached = true := by
  simp only [deviceOf]
  constructor
  · intro hx
    split at hx
    · cases hx
    next h hh =>
      split at hx
      · cases hx
      next d' hd' =>
        split at hx
        next ha =>
          obtain ⟨rfl, rfl⟩ : h.device = i ∧ d' = d := by simpa using hx
          exact ⟨⟨h, hh, rfl⟩, hd', ha⟩
        · cases hx
  · rintro ⟨⟨h, hh, rfl⟩, hd, ha⟩
    simp [hh, hd, ha]

theorem HandleOn.device (h : HandleOn id i d k bus) : bus.devices[i]? = some (d.asked k) :=
  (deviceOf_eq_ok.mp h).2.1

theorem OnlyAsked.handleOn (ha : OnlyAsked i j bus bus') (h : HandleOn id i d k bus) :
    HandleOn id i d (k + j) bus' := by
  obtain ⟨calls, rfl⟩ := ha
  obtain ⟨hh, hd, hattached⟩ := deviceOf_eq_ok.mp h
  apply deviceOf_eq_ok.mpr
  refine ⟨hh, ?_, hattached⟩
  rw [← UsbDevice.asked_asked]
  simp [getElem?_change, hd]

theorem controlIn_on (h : HandleOn id i d k bus) (c : UsbControl) {size : Nat} (hs : size < 65536)
    (timeout : Duration) :
    let x := bus.controlIn id c (List.replicate size 0) timeout
    x.1 = d.reply k c size ∧ OnlyAsked i 1 bus x.2 := by
  have hlength : lengthField (List.replicate size (0 : UInt8)).length = size := by
    rw [List.length_replicate]
    exact Nat.mod_eq_of_lt hs
  have hdevice : (bus.note (.controlIn c size timeout)).deviceOf id = .ok (i, d.asked k) := h
  simp only [controlIn, hlength, hdevice, ← UsbDevice.reply_asked (d := d) (k := k)]
  cases hf : (d.asked k).controlFailures with
  | nil =>
    have hsame : (d.asked k).asked 1 = d.asked k := by
      have hdrop : (d.asked k).controlFailures.drop 1 = (d.asked k).controlFailures := by rw [hf]; rfl
      simp only [UsbDevice.asked] at hdrop ⊢
      rw [hdrop]
    refine ⟨by simp [UsbDevice.reply, hf], .controlIn c size timeout :: bus.calls, ?_⟩
    rw [change_self h.device hsame]
    rfl
  | cons f rest =>
    refine ⟨by simp [UsbDevice.reply, hf], .controlIn c size timeout :: bus.calls, ?_⟩
    rw [← change_congr (f := fun d => { d with controlFailures := rest }) h.device]
    · rfl
    · simp only [UsbDevice.asked] at hf ⊢
      rw [hf]
      rfl

theorem readWords_on (h : HandleOn id i d k bus) (index : UInt8) (language : UInt16) :
    let x := bus.readWords id index language
    x.1 = d.words k index language ∧ OnlyAsked i 1 bus x.2 := by
  have hx := controlIn_on h (UsbDevice.stringRequest index language)
    (show stringSize < 65536 by decide) stringTimeout
  simp only [UsbDevice.stringRequest] at hx
  simp only [readWords, UsbDevice.words, UsbDevice.stringRequest, ← hx.1]
  split
  next hc => exact ⟨by simp [hc], by simpa [hc] using hx.2⟩
  next hc => exact ⟨by simp [hc], by simpa [hc] using hx.2⟩

theorem readKept_on (h : HandleOn id i d k bus) (language : Nat) (index : UInt8) :
    let x := bus.readKept id language index
    x.1 = d.string? k language index ∧ OnlyAsked i (UsbDevice.requests index) bus x.2 := by
  by_cases hi : index = 0
  · subst hi
    exact ⟨rfl, .zero i bus⟩
  · have hx := readWords_on h index (UInt16.ofNat language)
    simp only [readKept, readText, UsbDevice.string?, UsbDevice.requests, hi, if_false, ← hx.1]
    generalize bus.readWords id index (UInt16.ofNat language) = x at hx
    obtain ⟨e | words, bus'⟩ := x
    · exact ⟨rfl, hx.2⟩
    · cases hw : Text.Utf16.decode? words with
      | none => simpa [hw] using hx.2
      | some s =>
        cases hs : s.isEmpty <;> simpa [hw, hs, Option.filter] using hx.2

theorem readTexts_on (h : HandleOn id i d 0 bus) :
    let x := bus.readTexts id d
    x.1 = d.texts ∧ OnlyAsked i d.textRequests bus x.2 := by
  have hx := readWords_on h 0 0
  simp only [readTexts, readLanguages, UsbDevice.texts, UsbDevice.textRequests, UsbDevice.language?,
    ← hx.1]
  generalize bus.readWords id 0 0 = x at hx
  obtain ⟨e | languages, bus₁⟩ := x
  · exact ⟨rfl, hx.2⟩
  · cases languages with
    | nil => exact ⟨rfl, hx.2⟩
    | cons language rest =>
      have h₁ : HandleOn id i d 1 bus₁ := hx.2.handleOn h
      have hm := readKept_on h₁ language d.manufacturerIndex
      have h₂ := hm.2.handleOn h₁
      have hp := readKept_on h₂ language d.productIndex
      have h₃ := hp.2.handleOn h₂
      have hs := readKept_on h₃ language d.serialIndex
      constructor
      · simp only [hm.1, hp.1, hs.1, UsbDevice.textsIn, List.head?_cons, Option.elim_some]
      · exact ((hx.2.trans hm.2).trans hp.2).trans hs.2

theorem readUsage_on (h : HandleOn id i d k bus) (interface : UInt8) :
    let x := bus.readUsage id interface
    x.1 = d.usage? k interface ∧ OnlyAsked i 1 bus x.2 := by
  have hx := controlIn_on h (UsbDevice.usageRequest interface)
    (show descriptorSize < 65536 by decide) stringTimeout
  simp only [UsbDevice.usageRequest] at hx
  simp only [readUsage, UsbDevice.usage?, UsbDevice.usageRequest, ← hx.1]
  split
  next hc => exact ⟨by simp [hc], by simpa [hc] using hx.2⟩
  next hc => exact ⟨by simp [hc], by simpa [hc] using hx.2⟩

end Requests

section Entries
variable (settings : List UsbSetting) (texts : DeviceTexts)

theorem entriesOf_on (h : HandleOn id i d k bus) :
    let x := entriesOf d (some id) texts (settings.map fun s => (s.number, s.pipes)) bus
    x.1 = settings.mapIdx (fun j s => entryOf d s.number texts (d.usage? (k + j) s.number)) ∧
      OnlyAsked i settings.length bus x.2 := by
  induction settings generalizing k bus with
  | nil => exact ⟨rfl, .zero i bus⟩
  | cons s settings ih =>
    have hu := readUsage_on h s.number
    have hx := ih (hu.2.handleOn h)
    simp only [List.map_cons, entriesOf, hu.1, hx.1, List.mapIdx_cons, List.length_cons]
    constructor
    · simp only [Nat.add_zero, Nat.add_assoc, Nat.add_comm 1]
    · rw [Nat.add_comm]
      exact hu.2.trans hx.2

theorem entriesOf_unopened :
    entriesOf d none texts (settings.map fun s => (s.number, s.pipes)) bus =
      (settings.mapIdx fun _ s => entryOf d s.number texts none, bus) := by
  induction settings with
  | nil => rfl
  | cons s settings ih => simp only [List.map_cons, entriesOf, ih, List.mapIdx_cons]

end Entries

theorem map_entry_listed (i : Nat) (d : UsbDevice) :
    (d.listed i).map HidInterface.entry =
      d.hidSettings.mapIdx fun j s => (HidInterface.mk i d j s).entry := by
  apply List.ext_getElem?
  intro j
  simp [UsbDevice.listed, Function.comp_def]

theorem entry_of_unopened {e : UsbError} (ho : d.openError = some e) (i j : Nat) (s : UsbSetting) :
    (HidInterface.mk i d j s).entry = entryOf d s.number {} none := by
  simp [HidInterface.entry, HidInterface.texts, HidInterface.usage?, HidInterface.path, entryOf, ho]

theorem entry_of_opened (ho : d.openError = none) (i j : Nat) (s : UsbSetting) :
    (HidInterface.mk i d j s).entry =
      entryOf d s.number d.texts (d.usage? (d.textRequests + j) s.number) := by
  simp [HidInterface.entry, HidInterface.texts, HidInterface.usage?, HidInterface.path, entryOf, ho]

def Examined (i : Nat) (bus bus' : UsbBus) : Prop :=
  ∃ k opened calls, bus' = { bus.change i (UsbDevice.asked k) with opened, calls }

theorem close_unclaimed (hn : bus.table.Numbered) (ht : bus'.table = bus.table.add i []) :
    bus'.close bus.opened = { bus' with
      handles := bus.handles, calls := .closed i :: bus'.calls } := by
  have hh : bus'.handle? bus.opened = some { id := bus.opened, device := i } :=
    handle?_add hn ht
  have hfilter : bus'.handles.filter (fun h => h.id != bus.opened) = bus.handles := by
    have hw := hn.without_add i []
    rw [← ht] at hw
    exact congrArg UsbTable.handles hw
  simp only [close, hh, List.foldl_nil, note, hfilter]

theorem describe_of_present (hn : bus.table.Numbered) (hd : bus.devices[i]? = some d)
    (ha : d.attached = true) :
    (describe i d bus).1 = (d.listed i).map HidInterface.entry ∧
      Examined i bus (describe i d bus).2 := by
  by_cases hskip : d.hidSettings = []
  · have hx : describe i d bus = ([], bus) := by
      simp only [describe]
      rw [if_pos]
      cases hl : d.isListed with
      | false => rfl
      | true => simp [UsbDevice.hidInterfaces_of_listed hl, hskip]
    have hself : bus.change i (UsbDevice.asked 0) = bus := change_self hd rfl
    rw [hx]
    refine ⟨by simp [UsbDevice.listed, hskip], 0, bus.opened, bus.calls, ?_⟩
    rw [hself]
  · have hl : d.isListed = true := by
      by_contra hno
      exact hskip (UsbDevice.hidSettings_of_not_listed (by simpa using hno))
    simp only [describe, UsbDevice.hidInterfaces_of_listed hl, hl, List.isEmpty_map,
      List.isEmpty_eq_false_iff.mpr hskip, Bool.not_true, Bool.or_self, Bool.false_eq_true, if_false,
      map_entry_listed]
    cases ho : d.openError with
    | some e =>
      have hself : bus.change i (UsbDevice.asked 0) = bus := change_self hd rfl
      simp only [openDevice_of_error hd ha ho, entriesOf_unopened, entry_of_unopened ho, true_and]
      refine ⟨0, bus.opened, .opened i :: bus.calls, ?_⟩
      rw [hself]
      rfl
    | none =>
      have hon : HandleOn bus.opened i d 0 (bus.withHandle i) := by
        apply deviceOf_eq_ok.mpr
        exact ⟨⟨_, handle?_add hn (table_withHandle i bus), rfl⟩, hd, ha⟩
      have ht := readTexts_on hon
      have he := entriesOf_on d.hidSettings d.texts (ht.2.handleOn hon)
      simp only [Nat.zero_add] at he
      have htable : (entriesOf d (some bus.opened) d.texts
          (d.hidSettings.map fun s => (s.number, s.pipes))
          ((bus.withHandle i).readTexts bus.opened d).2).2.table = bus.table.add i [] := by
        rw [table_entriesOf, steady_table.readTexts, table_withHandle]
      obtain ⟨calls, hasked⟩ := ht.2.trans he.2
      simp only [openDevice_of_openable hd ha ho, ht.1, he.1, entry_of_opened ho, true_and]
      refine ⟨d.textRequests + d.hidSettings.length, bus.opened + 1, .closed i :: calls, ?_⟩
      rw [close_unclaimed hn htable, hasked]
      rfl

structure Surveyed (bus bus' : UsbBus) : Prop where
  handles : bus'.handles = bus.handles
  listError : bus'.listError = bus.listError
  readerError : bus'.readerError = bus.readerError
  devices : ∀ i : Nat, ∃ k, bus'.devices[i]? = bus.devices[i]?.map (UsbDevice.asked k)

theorem Surveyed.refl (bus : UsbBus) : Surveyed bus bus where
  handles := rfl
  listError := rfl
  readerError := rfl
  devices i := ⟨0, by simp [show UsbDevice.asked 0 = id from rfl]⟩

theorem Surveyed.trans (h : Surveyed bus bus') (h' : Surveyed bus' bus'') : Surveyed bus bus'' where
  handles := h'.handles.trans h.handles
  listError := h'.listError.trans h.listError
  readerError := h'.readerError.trans h.readerError
  devices i := by
    obtain ⟨j, hj⟩ := h.devices i
    obtain ⟨k, hk⟩ := h'.devices i
    refine ⟨j + k, ?_⟩
    rw [hk, hj, Option.map_map]
    exact congrArg (Option.map · _) (funext (UsbDevice.asked_asked j k))

theorem Examined.surveyed (h : Examined i bus bus') : Surveyed bus bus' := by
  obtain ⟨k, opened, calls, rfl⟩ := h
  refine ⟨rfl, rfl, rfl, ?_⟩
  intro j
  by_cases hj : i = j
  · exact ⟨k, by simp [getElem?_change, hj]⟩
  · exact ⟨0, by simp [getElem?_change, hj, show UsbDevice.asked 0 = id from rfl]⟩

theorem Examined.getElem?_of_ne (h : Examined i bus bus') (hj : i ≠ j) :
    bus'.devices[j]? = bus.devices[j]? := by
  obtain ⟨k, opened, calls, rfl⟩ := h
  simp [getElem?_change, hj]

theorem describeAll_of_present {devices : List (Nat × UsbDevice)} (hn : bus.table.Numbered)
    (hdevices : ∀ x ∈ devices, bus.devices[x.1]? = some x.2 ∧ x.2.attached = true)
    (hdistinct : (devices.map Prod.fst).Nodup) :
    (describeAll devices bus).1 =
        (devices.flatMap fun x => x.2.listed x.1).map HidInterface.entry ∧
      Surveyed bus (describeAll devices bus).2 := by
  induction devices generalizing bus with
  | nil => exact ⟨rfl, .refl bus⟩
  | cons x rest ih =>
    rw [List.map_cons, List.nodup_cons] at hdistinct
    obtain ⟨hd, ha⟩ := hdevices x List.mem_cons_self
    obtain ⟨hentries, hexamined⟩ := describe_of_present hn hd ha
    have hn' := (describe_outlasts hn x.1 x.2).2
    -- A device further on is as it was: it has another number.
    have hrest : ∀ y ∈ rest, (describe x.1 x.2 bus).2.devices[y.1]? = some y.2 ∧
        y.2.attached = true := by
      intro y hy
      have hne : x.1 ≠ y.1 := by
        intro heq
        exact hdistinct.1 (heq ▸ List.mem_map_of_mem hy)
      rw [hexamined.getElem?_of_ne hne]
      exact hdevices y (List.mem_cons_of_mem x hy)
    obtain ⟨hothers, hsurveyed⟩ := ih hn' hrest hdistinct.2
    constructor
    · simp only [describeAll, hentries, hothers, List.flatMap_cons, List.map_append]
    · exact hexamined.surveyed.trans hsurveyed

theorem nodup_present (bus : UsbBus) : (bus.present.map Prod.fst).Nodup := by
  have hnumbers : (bus.devices.zipIdx.map fun x => (x.2, x.1)).map Prod.fst =
      List.range' 0 bus.devices.length := by
    rw [List.map_map]
    exact List.zipIdx_map_snd 0 bus.devices
  have hall : ((bus.devices.zipIdx.map fun x => (x.2, x.1)).map Prod.fst).Nodup := by
    rw [hnumbers]
    exact List.nodup_range'
  exact hall.sublist (List.filter_sublist.map _)

theorem enumerate_eq (hn : bus.table.Numbered) (hl : bus.listError = none) :
    bus.enumerate.1 = .ok (bus.listed.map HidInterface.entry) ∧ Surveyed bus bus.enumerate.2 := by
  have hx := describeAll_of_present hn (fun x hx => mem_present.mp hx) (nodup_present bus)
  simp only [enumerate, attached_eq hl, hx.1]
  exact ⟨rfl, hx.2⟩

theorem enumerate_of_listError {e : UsbError} (hl : bus.listError = some e) :
    bus.enumerate = (.error (.enumeration e.text), bus) := by
  simp only [enumerate, attached_of_listError hl]
  rfl

end UsbBus

end HidAccess
