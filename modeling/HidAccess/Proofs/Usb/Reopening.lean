import HidAccess.Proofs.Usb.Listing

/-! The paths of listed interfaces lead back to them. The converse fails in two ways: a path may be
spelled in more than one way, and the opening does not look at the class of the device. -/

namespace HidAccess.UsbBus
variable {bus bus' : UsbBus} {i : HidInterface} {index : Nat} {d : UsbDevice} {interface : UInt8}
  {pipes : UsbPipes} {path : String}

/-- No two devices that are there share an address, and no two interfaces of one a number. -/
structure Distinct (bus : UsbBus) : Prop where
  addresses : ∀ x ∈ bus.present, ∀ y ∈ bus.present,
    x.2.bus = y.2.bus → x.2.address = y.2.address → x.1 = y.1
  numbers : ∀ x ∈ bus.present, ((x.2.interfaces.filterMap List.head?).map (·.number)).Nodup

theorem mem_listed :
    i ∈ bus.listed ↔ (i.index, i.device) ∈ bus.present ∧
      i.device.hidSettings[i.position]? = some i.setting := by
  simp only [listed, UsbDevice.listed, List.mem_flatMap, List.mem_mapIdx]
  constructor
  · rintro ⟨x, hx, j, hj, rfl⟩
    exact ⟨hx, List.getElem?_eq_getElem hj⟩
  · rintro ⟨hx, hs⟩
    obtain ⟨hj, heq⟩ := List.getElem?_eq_some_iff.mp hs
    exact ⟨_, hx, i.position, hj, by rw [heq]⟩

theorem hidSettings_spec {s : UsbSetting} (hs : s ∈ d.hidSettings) :
    d.isListed = true ∧ s ∈ d.interfaces.filterMap List.head? := by
  simp only [UsbDevice.hidSettings] at hs
  split at hs
  next hc =>
    obtain ⟨hdesc, hclass, -⟩ := hc
    exact ⟨by simp [UsbDevice.isListed, hdesc, hclass], (List.mem_filter.mp hs).1⟩
  · cases hs

section Present

theorem eq_of_index {x y : Nat × UsbDevice} (hx : x ∈ bus.present) (hy : y ∈ bus.present)
    (h : x.1 = y.1) : x = y := by
  have hdx := (mem_present.mp hx).1
  have hdy := (mem_present.mp hy).1
  rw [h, hdy] at hdx
  exact Prod.ext h (Option.some.inj hdx).symm

theorem Surveyed.mem_present (hs : Surveyed bus bus') {x : Nat × UsbDevice} (hx : x ∈ bus.present) :
    ∃ k, (x.1, x.2.asked k) ∈ bus'.present := by
  obtain ⟨hd, ha⟩ := UsbBus.mem_present.mp hx
  obtain ⟨k, hk⟩ := hs.devices x.1
  refine ⟨k, UsbBus.mem_present.mpr ⟨?_, ha⟩⟩
  rw [hk, hd]
  rfl

theorem Surveyed.of_mem_present (hs : Surveyed bus bus') {x : Nat × UsbDevice}
    (hx : x ∈ bus'.present) : ∃ d k, (x.1, d) ∈ bus.present ∧ x.2 = d.asked k := by
  obtain ⟨hd, ha⟩ := UsbBus.mem_present.mp hx
  obtain ⟨k, hk⟩ := hs.devices x.1
  rw [hd] at hk
  obtain ⟨d, hd', heq⟩ := Option.map_eq_some_iff.mp hk.symm
  refine ⟨d, k, UsbBus.mem_present.mpr ⟨hd', ?_⟩, heq.symm⟩
  rw [← heq] at ha
  exact ha

theorem Surveyed.distinct (hs : Surveyed bus bus') (hd : bus.Distinct) : bus'.Distinct where
  addresses := by
    intro x hx y hy
    obtain ⟨dx, j, hx', heq⟩ := hs.of_mem_present hx
    obtain ⟨dy, k, hy', heq'⟩ := hs.of_mem_present hy
    rw [heq, heq']
    exact hd.addresses _ hx' _ hy'
  numbers := by
    intro x hx
    obtain ⟨d, k, hx', heq⟩ := hs.of_mem_present hx
    rw [heq]
    exact hd.numbers _ hx'

end Present

section Paths

theorem nodup_paths (hd : bus.Distinct) : (bus.listed.map HidInterface.path).Nodup := by
  have hpaths (x : Nat × UsbDevice) : (x.2.listed x.1).map HidInterface.path =
      (x.2.hidSettings.map (·.number)).map x.2.pathOf := by
    apply List.ext_getElem?
    intro j
    simp [UsbDevice.listed, HidInterface.path, Function.comp_def]
  rw [listed, List.map_flatMap]
  simp only [hpaths]
  apply List.nodup_flatMap.mpr
  constructor
  · intro x hx
    have hnumbers : (x.2.hidSettings.map (·.number)).Nodup := by
      simp only [UsbDevice.hidSettings]
      split
      · exact (hd.numbers x hx).sublist (List.filter_sublist.map _)
      · exact List.nodup_nil
    apply hnumbers.map
    intro a b hab
    exact congrArg UsbPath.interface hab
  · have hpairs := List.pairwise_map.mp (nodup_present bus)
    apply hpairs.imp_of_mem
    intro x y hx hy hne
    -- Paths of two devices differ in the address, whatever the interfaces are.
    rw [Function.onFun_apply, List.disjoint_left]
    intro p hp hp'
    obtain ⟨n, -, rfl⟩ := List.mem_map.mp hp
    obtain ⟨n', -, heq⟩ := List.mem_map.mp hp'
    have hbus := congrArg UsbPath.bus heq
    have haddress := congrArg UsbPath.address heq
    exact hne (hd.addresses x hx y hy hbus.symm haddress.symm)

theorem find?_of_unique {α : Type} {p : α → Bool} {xs : List α} {x : α} (hx : x ∈ xs)
    (hp : p x = true) (hu : ∀ y ∈ xs, p y = true → y = x) : xs.find? p = some x := by
  cases hf : xs.find? p with
  | none => exact absurd hp (List.find?_eq_none.mp hf x hx)
  | some y => rw [hu y (List.mem_of_find?_eq_some hf) (List.find?_some hf)]

theorem resolve_of_listed (hd : bus.Distinct) (hl : bus.listError = none) (hi : i ∈ bus.listed) :
    bus.resolve i.path.text = .ok (i.index, i.device, i.setting.number, i.setting.pipes) := by
  obtain ⟨hpresent, hs⟩ := mem_listed.mp hi
  have hmem : i.setting ∈ i.device.hidSettings := List.mem_of_getElem? hs
  obtain ⟨hlisted, hfirst⟩ := hidSettings_spec hmem
  have hdesc : i.device.descriptorError = none := by
    simp only [UsbDevice.isListed, Bool.and_eq_true, Option.isNone_iff_eq_none] at hlisted
    exact hlisted.1
  have hdevice : bus.present.find? (fun x => x.2.bus == i.path.bus && x.2.address == i.path.address) =
      some (i.index, i.device) := by
    apply find?_of_unique hpresent
    · simp [HidInterface.path, UsbDevice.pathOf]
    · intro y hy hp
      simp only [HidInterface.path, UsbDevice.pathOf, Bool.and_eq_true, beq_iff_eq] at hp
      exact eq_of_index hy hpresent (hd.addresses y hy _ hpresent hp.1 hp.2)
  have hinterface : i.device.hidInterfaces.find? (fun x => x.1 == i.path.interface) =
      some (i.setting.number, i.setting.pipes) := by
    rw [UsbDevice.hidInterfaces_of_listed hlisted]
    apply find?_of_unique
    · exact List.mem_map.mpr ⟨i.setting, hmem, rfl⟩
    · simp [HidInterface.path, UsbDevice.pathOf]
    · intro x hx hp
      obtain ⟨s, hs', rfl⟩ := List.mem_map.mp hx
      have hnumber : s.number = i.setting.number := by
        simpa [HidInterface.path, UsbDevice.pathOf] using hp
      have heq : s = i.setting := List.inj_on_of_nodup_map (hd.numbers _ hpresent)
        (hidSettings_spec hs').2 hfirst hnumber
      rw [heq]
  simp only [resolve, UsbPath.read?_text, attached_eq hl, hdevice, hdesc, hinterface]

end Paths

theorem Opening.of_asked {k : Nat} {x : Outcome UsbBus UsbLink}
    (h : Opening bus index (d.asked k) interface pipes x) : Opening bus index d interface pipes x := by
  cases h with
  | unopened he ht => exact .unopened he ht
  | taken he hheld ht => exact .taken he hheld ht
  | unclaimed he hfree hc ht => exact .unclaimed he hfree hc ht
  | unstarted he hfree hc hin hr ht => exact .unstarted he hfree hc hin hr ht
  | opened he hfree hc hr hl hi hp ht => exact .opened he hfree hc hr hl hi hp ht

theorem opening_of_listed (hn : bus.table.Numbered) (hd : bus.Distinct) (hl : bus.listError = none)
    (hi : i ∈ bus.listed) :
    Opening bus.enumerate.2 i.index i.device i.setting.number i.setting.pipes
      (openPath i.path.text bus.enumerate.2) := by
  have hs := (enumerate_eq hn hl).2
  have hn' := (enumerate_outlasts hn).2
  obtain ⟨hpresent, hsetting⟩ := mem_listed.mp hi
  obtain ⟨k, hk⟩ := hs.mem_present hpresent
  have hi' : { i with device := i.device.asked k } ∈ bus.enumerate.2.listed :=
    mem_listed.mpr ⟨hk, hsetting⟩
  have hr := resolve_of_listed (hs.distinct hd) (hs.listError.trans hl) hi'
  exact (opening_openPath hn' hr).of_asked

theorem toInt_interfaceNumber (i : HidInterface) :
    i.entry.interfaceNumber.toInt = i.setting.number.toNat := by
  have h := i.setting.number.toNat_lt
  simp only [HidInterface.entry]
  rw [Int32.toInt_ofInt_of_le]
  · omega
  · omega

/-- At every point of every run the listing is an error exactly if the devices cannot be listed.
Otherwise it has one entry for each HID interface of each device that is there, in the order of the bus,
made of what that device tells. If the devices and the interfaces of each can be told apart, then no two
entries have the same path, and after the listing each path opens its own interface or fails as the
opening of that interface does. -/
theorem listed_reopens (devices : List UsbDevice) (as : List Action) :
    let bus := ((Traffic.start devices).run as).bus
    (∀ e, bus.listError = some e → bus.enumerate.1 = .error (.enumeration e.text)) ∧
    (bus.listError = none → bus.enumerate.1 = .ok (bus.listed.map HidInterface.entry)) ∧
    (∀ i ∈ bus.listed, i.entry.interfaceNumber.toInt = i.setting.number.toNat) ∧
    (bus.Distinct →
      (bus.listed.map (·.entry.path)).Nodup ∧
      (bus.listError = none → ∀ i ∈ bus.listed,
        Opening bus.enumerate.2 i.index i.device i.setting.number i.setting.pipes
          (openPath i.entry.path bus.enumerate.2))) := by
  intro bus
  have hn : bus.table.Numbered := (Traffic.run_balanced devices as).numbered
  refine ⟨?unlisted, fun hl => (enumerate_eq hn hl).1, fun i _ => toInt_interfaceNumber i, ?distinct⟩
  case unlisted =>
    intro e he
    rw [enumerate_of_listError he]
  case distinct =>
    intro hd
    constructor
    · have htexts := (nodup_paths hd).map fun p q h => UsbPath.text_injective h
      rwa [List.map_map] at htexts
    · intro hl i hi
      exact opening_of_listed hn hd hl hi

def pad (deviceClass : UInt8) : UsbDevice where
  bus := 1
  address := 4
  deviceClass
  vendorId := 1
  productId := 2
  bcdRelease := 0
  interfaces := [[{ number := 0, interfaceClass := 3 }]]

theorem unlistable_bus_lists_nothing :
    let bus := ((Traffic.start [pad 0]).run [.control (.failList (some .io))]).bus
    bus.Distinct ∧ bus.listed.length = 1 ∧
      bus.enumerate.1 = .error (.enumeration "Input/Output Error") := by
  refine ⟨⟨?_, ?_⟩, rfl, rfl⟩
  · decide
  · decide

section Opened
variable {l : UsbLink}

theorem resolve_of_opened (hn : bus.table.Numbered) (ho : (openPath path bus).1 = .ok l) :
    ∃ index d, bus.resolve path = .ok (index, d, l.interface, l.pipes) ∧
      (openPath path bus).2.table = bus.table.add index [l.interface] := by
  cases hr : bus.resolve path with
  | error e =>
    rw [openPath_of_unresolved hr] at ho
    cases ho
  | ok r =>
    obtain ⟨index, d, interface, pipes⟩ := r
    have hx := opening_openPath hn hr
    generalize openPath path bus = x at ho hx
    cases hx with
    | opened _ _ _ _ _ hi hp ht =>
      cases ho
      subst hi hp
      exact ⟨index, d, rfl, ht⟩
    | _ => cases ho

theorem path_listed_iff (hn : bus.table.Numbered) (hl : bus.listError = none) :
    (∃ entries, bus.enumerate.1 = .ok entries ∧ path ∈ entries.map (·.path)) ↔
      ∃ i ∈ bus.listed, i.path.text = path := by
  rw [(enumerate_eq hn hl).1]
  constructor
  · rintro ⟨entries, hx, hmem⟩
    obtain rfl := Except.ok.inj hx
    obtain ⟨e, he, rfl⟩ := List.mem_map.mp hmem
    obtain ⟨i, hi, rfl⟩ := List.mem_map.mp he
    exact ⟨i, hi, rfl⟩
  · rintro ⟨i, hi, rfl⟩
    exact ⟨_, rfl, List.mem_map_of_mem (List.mem_map_of_mem hi)⟩

theorem text_eq_iff (hr : Resolved bus path index d interface pipes) {p : UsbPath} :
    p.text = path ↔ path = (d.pathOf interface).text ∧ p = d.pathOf interface := by
  constructor
  · rintro rfl
    have hp : p = d.pathOf interface := by
      have hread := hr.read
      rw [UsbPath.read?_text] at hread
      exact Option.some.inj hread
    rw [hp]
    exact ⟨rfl, rfl⟩
  · rintro ⟨hpath, rfl⟩
    exact hpath.symm

theorem listed_of_resolved (hr : Resolved bus path index d interface pipes)
    (hc : d.deviceClass = 0) : ∃ i ∈ bus.listed, i.path = d.pathOf interface := by
  have hlisted : d.isListed = true := by simp [UsbDevice.isListed, hr.readable, hc]
  have hid := hr.hid
  rw [UsbDevice.hidInterfaces_of_listed hlisted] at hid
  obtain ⟨s, hs, heq⟩ := List.mem_map.mp hid
  obtain ⟨j, hj, hget⟩ := List.getElem_of_mem hs
  have hnumber : s.number = interface := congrArg Prod.fst heq
  refine ⟨⟨index, d, j, s⟩, mem_listed.mpr ⟨?_, ?_⟩, ?_⟩
  · exact mem_present.mpr ⟨hr.device, hr.attached⟩
  · rw [← hget]
    exact List.getElem?_eq_getElem hj
  · simp [HidInterface.path, hnumber]

theorem class_of_listed (hd : bus.Distinct) (hr : Resolved bus path index d interface pipes)
    (hi : i ∈ bus.listed) (hp : i.path = d.pathOf interface) : d.deviceClass = 0 := by
  obtain ⟨hpresent, hs⟩ := mem_listed.mp hi
  have hmem : (index, d) ∈ bus.present := mem_present.mpr ⟨hr.device, hr.attached⟩
  have hindex : i.index = index := hd.addresses _ hpresent _ hmem (congrArg UsbPath.bus hp)
    (congrArg UsbPath.address hp)
  have hdevice : i.device = d := congrArg Prod.snd (eq_of_index hpresent hmem hindex)
  have hlisted := (hidSettings_spec (List.mem_of_getElem? hs)).1
  rw [hdevice] at hlisted
  simp only [UsbDevice.isListed, Bool.and_eq_true, beq_iff_eq] at hlisted
  exact hlisted.2

end Opened

/-- A path that opens an interface is listed exactly if it is spelled as paths are printed and an
interface with this path is listed; where addresses are distinct, that is if the device opened has no
class of its own. -/
theorem opened_path_listed_iff (devices : List UsbDevice) (as : List Action) (path : String)
    (l : UsbLink) :
    let bus := ((Traffic.start devices).run as).bus
    (openPath path bus).1 = .ok l →
    ∃ (index : Nat) (d : UsbDevice), bus.devices[index]? = some d ∧ d.attached = true ∧
      (openPath path bus).2.handles =
        bus.handles ++ [{ id := bus.opened, device := index, claims := [l.interface] }] ∧
      ((∃ entries, bus.enumerate.1 = .ok entries ∧ path ∈ entries.map (·.path)) ↔
        path = (d.pathOf l.interface).text ∧ ∃ i ∈ bus.listed, i.path = d.pathOf l.interface) ∧
      (bus.Distinct →
        ((∃ i ∈ bus.listed, i.path = d.pathOf l.interface) ↔ d.deviceClass = 0)) := by
  intro bus ho
  have hn : bus.table.Numbered := (Traffic.run_balanced devices as).numbered
  obtain ⟨index, d, hresolve, ht⟩ := resolve_of_opened hn ho
  have hr := resolved_of_resolve hresolve
  refine ⟨index, d, hr.device, hr.attached, congrArg UsbTable.handles ht, ?_, ?_⟩
  · rw [path_listed_iff hn hr.listable]
    constructor
    · rintro ⟨i, hi, hp⟩
      obtain ⟨hpath, hp⟩ := (text_eq_iff hr).mp hp
      exact ⟨hpath, i, hi, hp⟩
    · rintro ⟨hpath, i, hi, hp⟩
      exact ⟨i, hi, (text_eq_iff hr).mpr ⟨hpath, hp⟩⟩
  · intro hd
    constructor
    · rintro ⟨i, hi, hp⟩
      exact class_of_listed hd hr hi hp
    · exact listed_of_resolved hr

theorem opened_pad_listed :
    let bus := (Traffic.start [pad 0]).bus
    let l : UsbLink := { handle := 0, interface := 0, pipes := {}, texts := {} }
    (openPath "0001:0004:00" bus).1 = .ok l ∧
      ∃ (index : Nat) (d : UsbDevice), bus.devices[index]? = some d ∧ d.attached = true ∧
        (openPath "0001:0004:00" bus).2.handles =
          bus.handles ++ [{ id := bus.opened, device := index, claims := [l.interface] }] ∧
        ((∃ entries, bus.enumerate.1 = .ok entries ∧
            "0001:0004:00" ∈ entries.map (·.path)) ↔
          "0001:0004:00" = (d.pathOf l.interface).text ∧
            ∃ i ∈ bus.listed, i.path = d.pathOf l.interface) ∧
        (bus.Distinct →
          ((∃ i ∈ bus.listed, i.path = d.pathOf l.interface) ↔ d.deviceClass = 0)) := by
  have ho : (openPath "0001:0004:00" (Traffic.start [pad 0]).bus).1 =
      .ok { handle := 0, interface := 0, pipes := {}, texts := {} } := rfl
  exact ⟨ho, opened_path_listed_iff [pad 0] [] "0001:0004:00" _ ho⟩

/-- A device with a class of its own opens by a path that is not listed, and so does a listed one by
another spelling of its path. -/
theorem unlisted_paths_open :
    let classed := (Traffic.start [pad 0xEF]).bus
    let plain := (Traffic.start [pad 0]).bus
    (classed.enumerate.1 = .ok [] ∧ (openPath "0001:0004:00" classed).1.toOption.isSome = true) ∧
      plain.enumerate.1.toOption.map (List.map (·.path)) = some ["0001:0004:00"] ∧
      (openPath "1:4:0" plain).1.toOption.isSome = true := by
  refine ⟨⟨rfl, rfl⟩, ?_, rfl⟩
  decide

end HidAccess.UsbBus
