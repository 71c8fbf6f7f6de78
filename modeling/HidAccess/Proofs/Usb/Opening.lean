import HidAccess.Proofs.Usb.Table

/-! The opening of a USB interface. A path leads to an interface of a device that is there; the opening
then ends at one of its steps, and a handle that was opened before a step that fails is closed again. -/

namespace HidAccess.UsbBus
variable {bus bus' : UsbBus} {t : UsbTable} {index id : Nat} {d : UsbDevice} {interface : UInt8}
  {pipes : UsbPipes} {path : String}

section Resolution

theorem attached_of_listError {e : UsbError} (he : bus.listError = some e) :
    bus.attached = .error e := by
  simp [attached, he]

def present (bus : UsbBus) : List (Nat × UsbDevice) :=
  (bus.devices.zipIdx.map fun (d, i) => (i, d)).filter fun (_, d) => d.attached

theorem attached_eq (he : bus.listError = none) : bus.attached = .ok bus.present := by
  simp only [attached, he, present]

theorem mem_present {x : Nat × UsbDevice} :
    x ∈ bus.present ↔ bus.devices[x.1]? = some x.2 ∧ x.2.attached = true := by
  obtain ⟨i, d⟩ := x
  simp only [present, List.mem_filter, List.mem_map, Prod.mk.injEq]
  apply and_congr_left'
  constructor
  · rintro ⟨⟨d', i'⟩, hmem, rfl, rfl⟩
    exact List.mem_zipIdx_iff_getElem?.mp hmem
  · intro hd
    exact ⟨(d, i), List.mem_zipIdx_iff_getElem?.mpr hd, rfl, rfl⟩

structure Resolved (bus : UsbBus) (path : String) (index : Nat) (d : UsbDevice) (interface : UInt8)
    (pipes : UsbPipes) : Prop where
  listable : bus.listError = none
  device : bus.devices[index]? = some d
  attached : d.attached = true
  readable : d.descriptorError = none
  read : UsbPath.read? path = some (d.pathOf interface)
  hid : (interface, pipes) ∈ d.hidInterfaces

theorem resolved_of_resolve (hr : bus.resolve path = .ok (index, d, interface, pipes)) :
    Resolved bus path index d interface pipes := by
  cases hp : UsbPath.read? path with
  | none => simp [resolve, hp] at hr
  | some p =>
    cases hl : bus.listError with
    | some e => simp [resolve, hp, attached_of_listError hl] at hr
    | none =>
      simp only [resolve, hp, attached_eq hl] at hr
      split at hr
      · simp at hr
      next i d' hfind =>
        split at hr
        · simp at hr
        next hdesc =>
          split at hr
          next n ps hhid =>
            obtain ⟨rfl, rfl, rfl, rfl⟩ : i = index ∧ d' = d ∧ n = interface ∧ ps = pipes := by
              simpa using hr
            have hmem := mem_present.mp (List.mem_of_find?_eq_some hfind)
            have hat := List.find?_some hfind
            have hn := List.find?_some hhid
            simp only [Bool.and_eq_true, beq_iff_eq] at hat hn
            have hpath : p = d'.pathOf n := by
              rw [UsbDevice.pathOf, hat.1, hat.2, hn]
            exact ⟨hl, hmem.1, hmem.2, hdesc, hp.trans (congrArg some hpath),
              List.mem_of_find?_eq_some hhid⟩
          · simp at hr

end Resolution

section Steps

theorem openDevice_of_error {e : UsbError} (hd : bus.devices[index]? = some d)
    (ha : d.attached = true) (he : d.openError = some e) :
    bus.openDevice index = (.error e, bus.note (.opened index)) := by
  have hdev : (bus.note (.opened index)).devices[index]? = some d := hd
  simp [openDevice, hdev, ha, he]

def withHandle (index : Nat) (bus : UsbBus) : UsbBus :=
  { bus with
    handles := bus.handles ++ [{ id := bus.opened, device := index }]
    opened := bus.opened + 1
    calls := .opened index :: bus.calls }

theorem table_withHandle (index : Nat) (bus : UsbBus) :
    (bus.withHandle index).table = bus.table.add index [] := rfl

theorem openDevice_of_openable (hd : bus.devices[index]? = some d) (ha : d.attached = true)
    (he : d.openError = none) : bus.openDevice index = (.ok bus.opened, bus.withHandle index) := by
  have hdev : (bus.note (.opened index)).devices[index]? = some d := hd
  simp only [openDevice, hdev, ha, he]
  rfl

theorem handle?_add {claims : List UInt8} (hn : t.Numbered) (ht : bus.table = t.add index claims) :
    bus.handle? t.opened = some { id := t.opened, device := index, claims } := by
  have hh : bus.handles = t.handles ++ [{ id := t.opened, device := index, claims }] :=
    congrArg UsbTable.handles ht
  have hold : t.handles.find? (fun h => h.id == t.opened) = none := by
    apply List.find?_eq_none.mpr
    intro h hmem
    have hlt := hn.below h hmem
    simp only [beq_iff_eq]
    omega
  simp [handle?, hh, List.find?_append, hold]

theorem isHeld_add (hn : t.Numbered) (ht : bus.table = t.add index []) :
    bus.isHeld { id := t.opened, device := index } interface = true ↔
      (index, interface) ∈ t.held := by
  have hh : bus.handles = t.handles ++ [{ id := t.opened, device := index }] :=
    congrArg UsbTable.handles ht
  simp only [isHeld, hh, UsbTable.held, List.any_eq_true, Bool.and_eq_true, bne_iff_ne, beq_iff_eq,
    List.contains_iff_mem, List.mem_flatMap, List.mem_map, List.mem_append, List.mem_singleton]
  constructor
  · rintro ⟨h, hmem, ⟨hne, hdev⟩, hclaim⟩
    rcases hmem with hmem | rfl
    · exact ⟨h, hmem, interface, hclaim, by rw [hdev]⟩
    · exact absurd rfl hne
  · rintro ⟨h, hmem, n, hclaim, heq⟩
    obtain ⟨hdev, rfl⟩ := Prod.mk.inj heq
    have hlt := hn.below h hmem
    exact ⟨h, .inl hmem, ⟨by omega, hdev⟩, hclaim⟩

theorem table_claimed (hn : t.Numbered) (ht : bus.table = t.add index []) :
    (bus.changeHandle t.opened fun h => { h with claims := h.claims ++ [interface] }).table =
      t.add index [interface] := by
  have hh : bus.handles = t.handles ++ [{ id := t.opened, device := index }] :=
    congrArg UsbTable.handles ht
  have ho : bus.opened = t.opened + 1 := congrArg UsbTable.opened ht
  have hold : t.handles.map (fun h => if h.id == t.opened then
      { h with claims := h.claims ++ [interface] } else h) = t.handles := by
    refine (List.map_congr_left ?_).trans (List.map_id t.handles)
    intro h hmem
    have hlt := hn.below h hmem
    have hne : (h.id == t.opened) = false := beq_false_of_ne (by omega)
    simp [hne]
  simp only [table, changeHandle, hh, List.map_append, hold, ho]
  simp [UsbTable.add]

theorem claim_of_held (hn : t.Numbered) (ht : bus.table = t.add index [])
    (hheld : (index, interface) ∈ t.held) :
    bus.claim t.opened interface = (.error .busy, bus.note (.claimed interface)) := by
  have ht' : (bus.note (.claimed interface)).table = t.add index [] := ht
  simp only [claim, handle?_add hn ht', claimOutcome, (isHeld_add hn ht').mpr hheld, if_true]

theorem claim_of_error {e : UsbError} (hn : t.Numbered) (ht : bus.table = t.add index [])
    (hd : bus.devices[index]? = some d) (hheld : (index, interface) ∉ t.held)
    (he : d.claimError = some e) :
    bus.claim t.opened interface = (.error e, bus.note (.claimed interface)) := by
  have ht' : (bus.note (.claimed interface)).table = t.add index [] := ht
  have hd' : (bus.note (.claimed interface)).devices[index]? = some d := hd
  have hfree := mt (isHeld_add hn ht').mp hheld
  simp only [claim, handle?_add hn ht', claimOutcome, hfree, hd', Option.bind_some, he]
  rfl

theorem claim_of_free (hn : t.Numbered) (ht : bus.table = t.add index [])
    (hd : bus.devices[index]? = some d) (hheld : (index, interface) ∉ t.held)
    (he : d.claimError = none) :
    ∃ bus', bus.claim t.opened interface = (.ok (), bus') ∧ bus'.table = t.add index [interface] ∧
      bus'.readerError = bus.readerError := by
  have ht' : (bus.note (.claimed interface)).table = t.add index [] := ht
  have hd' : (bus.note (.claimed interface)).devices[index]? = some d := hd
  have hfree := mt (isHeld_add hn ht').mp hheld
  simp only [claim, handle?_add hn ht', claimOutcome, hfree, hd', Option.bind_some, he]
  exact ⟨_, rfl, table_claimed hn ht', rfl⟩

theorem fst_startReading (handle device : Nat) (pipes : UsbPipes) (bus : UsbBus) :
    (bus.startReading handle device pipes).1 =
      match (if pipes.input.isSome then bus.readerError else none) with
      | some e => .error e
      | none => .ok () := by
  simp only [startReading, startReader]
  cases pipes.input with
  | none => rfl
  | some e =>
    simp only [Option.isSome_some, if_true]
    cases bus.readerError <;> rfl

end Steps

inductive Opening (bus : UsbBus) (index : Nat) (d : UsbDevice) (interface : UInt8)
    (pipes : UsbPipes) : Outcome UsbBus UsbLink → Prop
  | unopened {e : UsbError} {bus' : UsbBus} : d.openError = some e → bus'.table = bus.table →
    Opening bus index d interface pipes (.error e.toAccess, bus')
  | taken {bus' : UsbBus} : d.openError = none → (index, interface) ∈ bus.table.held →
    bus'.table = bus.table.skipped →
    Opening bus index d interface pipes (.error UsbError.busy.toAccess, bus')
  | unclaimed {e : UsbError} {bus' : UsbBus} : d.openError = none →
    (index, interface) ∉ bus.table.held → d.claimError = some e → bus'.table = bus.table.skipped →
    Opening bus index d interface pipes (.error e.toAccess, bus')
  | unstarted {e : SystemError} {bus' : UsbBus} : d.openError = none →
    (index, interface) ∉ bus.table.held → d.claimError = none → pipes.input.isSome = true →
    bus.readerError = some e → bus'.table = bus.table.skipped →
    Opening bus index d interface pipes (.error (unstarted e), bus')
  | opened {l : UsbLink} {bus' : UsbBus} : d.openError = none →
    (index, interface) ∉ bus.table.held → d.claimError = none →
    (pipes.input.isSome = true → bus.readerError = none) →
    l.handle = bus.opened → l.interface = interface → l.pipes = pipes →
    bus'.table = bus.table.add index [interface] →
    Opening bus index d interface pipes (.ok l, bus')

theorem openPath_of_unresolved {e : AccessError} (hr : bus.resolve path = .error e) :
    openPath path bus = (.error e, bus) := by
  simp [openPath, hr]

theorem table_close_added {claims : List UInt8} (hn : bus.table.Numbered)
    (ht : bus'.table = bus.table.add index claims) :
    (bus'.close bus.opened).table = bus.table.skipped := by
  rw [table_close, ht]
  exact hn.without_add index claims

theorem opening_of_claimed (hn : bus.table.Numbered) (ho : d.openError = none)
    (hheld : (index, interface) ∉ bus.table.held) (hc : d.claimError = none)
    (ht : bus'.table = bus.table.add index [interface]) (hr : bus'.readerError = bus.readerError) :
    Opening bus index d interface pipes
      (match bus'.readTexts bus.opened d with
      | (texts, bus₂) =>
        match bus₂.startReading bus.opened index pipes with
        | (.error e, bus₃) => (.error (UsbBus.unstarted e), bus₃.close bus.opened)
        | (.ok (), bus₃) => (.ok { handle := bus.opened, interface, pipes, texts }, bus₃)) := by
  have ht₂ := (steady_table.readTexts bus.opened d bus').trans ht
  have hr₂ : (bus'.readTexts bus.opened d).2.readerError = bus.readerError :=
    (steady_readerError.readTexts bus.opened d bus').trans hr
  generalize bus'.readTexts bus.opened d = x at ht₂ hr₂ ⊢
  obtain ⟨texts, bus₂⟩ := x
  dsimp only
  have hstart := fst_startReading bus.opened index pipes bus₂
  have ht₃ := (steady_table.startReading bus.opened index pipes bus₂).trans ht₂
  rw [hr₂] at hstart
  generalize bus₂.startReading bus.opened index pipes = x at hstart ht₃ ⊢
  obtain ⟨r, bus₃⟩ := x
  split at hstart
  next e he =>
    obtain ⟨hin, he⟩ : pipes.input.isSome = true ∧ bus.readerError = some e := by
      simpa using he
    obtain rfl : r = .error e := hstart
    exact .unstarted ho hheld hc hin he (table_close_added hn ht₃)
  next he =>
    obtain rfl : r = .ok () := hstart
    exact .opened ho hheld hc (by simpa using he) rfl rfl rfl ht₃

theorem opening_openPath (hn : bus.table.Numbered)
    (hr : bus.resolve path = .ok (index, d, interface, pipes)) :
    Opening bus index d interface pipes (openPath path bus) := by
  have hres := resolved_of_resolve hr
  cases ho : d.openError with
  | some e =>
    simp only [openPath, hr, openDevice_of_error hres.device hres.attached ho]
    exact .unopened ho rfl
  | none =>
    -- From here on there is a handle, which every failure closes.
    have htable : (bus.withHandle index).setAutoDetach.table = bus.table.add index [] := rfl
    have hdevice : (bus.withHandle index).setAutoDetach.devices[index]? = some d := hres.device
    simp only [openPath, hr, openDevice_of_openable hres.device hres.attached ho]
    by_cases hheld : (index, interface) ∈ bus.table.held
    · have hclaim : (bus.withHandle index).setAutoDetach.claim bus.opened interface = _ :=
        claim_of_held hn htable hheld
      rw [hclaim]
      exact .taken ho hheld (table_close_added hn htable)
    · cases hc : d.claimError with
      | some e =>
        have hclaim : (bus.withHandle index).setAutoDetach.claim bus.opened interface = _ :=
          claim_of_error hn htable hdevice hheld hc
        rw [hclaim]
        exact .unclaimed ho hheld hc (table_close_added hn htable)
      | none =>
        obtain ⟨bus₁, hclaim, ht₁, hr₁⟩ := claim_of_free hn htable hdevice hheld hc
        have hclaim : (bus.withHandle index).setAutoDetach.claim bus.opened interface = _ := hclaim
        simp only [hclaim]
        exact opening_of_claimed hn ho hheld hc ht₁ hr₁

end HidAccess.UsbBus
