import HidAccess.Proofs.Handle.Custody
import HidAccess.Proofs.Usb.OutputReport

/-! The open handles of a USB bus. Transfers, readers and changes of devices leave them alone; a handle
comes with the opening of a device, takes interfaces, and goes with its closing. -/

namespace HidAccess

structure UsbTable where
  handles : List UsbHandle := []
  opened : Nat := 0

namespace UsbTable

def held (t : UsbTable) : List (Nat × UInt8) :=
  t.handles.flatMap fun h => h.claims.map fun interface => (h.device, interface)

def skipped (t : UsbTable) : UsbTable := { t with opened := t.opened + 1 }

def add (device : Nat) (claims : List UInt8) (t : UsbTable) : UsbTable where
  handles := t.handles ++ [{ id := t.opened, device, claims }]
  opened := t.opened + 1

def without (id : Nat) (t : UsbTable) : UsbTable :=
  { t with handles := t.handles.filter fun h => h.id != id }

structure Numbered (t : UsbTable) : Prop where
  below : ∀ h ∈ t.handles, h.id < t.opened
  distinct : (t.handles.map (·.id)).Nodup

namespace Numbered
variable {t : UsbTable}

theorem empty : Numbered {} where
  below := by simp
  distinct := by simp

theorem skipped (hn : t.Numbered) : t.skipped.Numbered where
  below := by
    intro h hh
    exact Nat.lt_succ_of_lt (hn.below h hh)
  distinct := hn.distinct

theorem add (hn : t.Numbered) (device : Nat) (claims : List UInt8) :
    (t.add device claims).Numbered where
  below := by
    intro h hh
    rcases List.mem_append.mp hh with hh | hh
    · exact Nat.lt_succ_of_lt (hn.below h hh)
    · rw [List.mem_singleton.mp hh]
      exact Nat.lt_succ_self _
  distinct := by
    have hnew : t.opened ∉ t.handles.map (·.id) := by
      intro hmem
      obtain ⟨h, hh, hid⟩ := List.mem_map.mp hmem
      have hlt := hn.below h hh
      omega
    simp only [UsbTable.add, List.map_append, List.map_cons, List.map_nil]
    apply List.nodup_append.mpr
    refine ⟨hn.distinct, List.pairwise_singleton _ _, ?_⟩
    intro a ha b hb hab
    rw [List.mem_singleton.mp hb] at hab
    exact hnew (hab ▸ ha)

theorem without (hn : t.Numbered) (id : Nat) : (t.without id).Numbered where
  below := by
    intro h hh
    exact hn.below h (List.mem_filter.mp hh).1
  distinct := hn.distinct.sublist (List.filter_sublist.map _)

theorem without_add (hn : t.Numbered) (device : Nat) (claims : List UInt8) :
    (t.add device claims).without t.opened = t.skipped := by
  have hold : t.handles.filter (fun h => h.id != t.opened) = t.handles := by
    apply List.filter_eq_self.mpr
    intro h hh
    have hlt := hn.below h hh
    exact bne_iff_ne.mpr (by omega)
  simp [UsbTable.without, UsbTable.add, UsbTable.skipped, hold]

end Numbered

theorem held_add (device : Nat) (claims : List UInt8) (t : UsbTable) :
    (t.add device claims).held = t.held ++ claims.map fun interface => (device, interface) := by
  simp [held, add]

end UsbTable

namespace UsbBus
variable {β : Type} {view : UsbBus → β} {bus : UsbBus} {index id : Nat} {d : UsbDevice}

def table (bus : UsbBus) : UsbTable := ⟨bus.handles, bus.opened⟩

/-- A view of the bus that calls on open devices leave alone. -/
structure Steady (view : UsbBus → β) : Prop where
  note : ∀ call bus, view (bus.note call) = view bus
  change : ∀ index f bus, view (bus.change index f) = view bus
  readers : ∀ readers bus, view { bus with readers } = view bus

namespace Steady
variable (hv : Steady view)
include hv

theorem controlIn (id : Nat) (c : UsbControl) (buffer : Bytes) (timeout : Duration) (bus : UsbBus) :
    view (bus.controlIn id c buffer timeout).2 = view bus := by
  simp only [UsbBus.controlIn]
  split
  · exact hv.note _ bus
  · split
    · rw [hv.change, hv.note]
    · exact hv.note _ bus

theorem controlOut (id : Nat) (c : UsbControl) (data : Bytes) (timeout : Duration) (bus : UsbBus) :
    view (bus.controlOut id c data timeout).2 = view bus := by
  simp only [UsbBus.controlOut]
  split
  · exact hv.note _ bus
  · split
    · rw [hv.change, hv.note]
    · rw [hv.change, hv.note]

theorem interruptOut (id : Nat) (endpoint : UInt8) (data : Bytes) (timeout : Duration)
    (bus : UsbBus) : view (bus.interruptOut id endpoint data timeout).2 = view bus := by
  simp only [UsbBus.interruptOut]
  split
  · exact hv.note _ bus
  · split
    · rw [hv.change, hv.note]
    · exact hv.note _ bus

theorem readWords (id : Nat) (index : UInt8) (language : UInt16) (bus : UsbBus) :
    view (bus.readWords id index language).2 = view bus := by
  have hx := hv.controlIn id
    { requestType := UsbDevice.standardDeviceIn, request := UsbDevice.getDescriptor,
      value := UsbDevice.typed UsbDevice.stringDescriptor index, index := language }
    (List.replicate stringSize 0) stringTimeout bus
  simp only [UsbBus.readWords]
  split
  next hc => rwa [hc] at hx
  next hc => rwa [hc] at hx

theorem readText (id language : Nat) (index : UInt8) (bus : UsbBus) :
    view (bus.readText id language index).2 = view bus := by
  have hx := hv.readWords id index (UInt16.ofNat language) bus
  simp only [UsbBus.readText]
  split
  next hc => rwa [hc] at hx
  next hc =>
    rw [hc] at hx
    split
    · exact hx
    · exact hx

theorem readKept (id language : Nat) (index : UInt8) (bus : UsbBus) :
    view (bus.readKept id language index).2 = view bus := by
  have hx := hv.readText id language index bus
  simp only [UsbBus.readKept]
  split
  · rfl
  · split
    next hc => rwa [hc] at hx
    next hc => rwa [hc] at hx

theorem readTexts (id : Nat) (d : UsbDevice) (bus : UsbBus) :
    view (bus.readTexts id d).2 = view bus := by
  have hx : view (bus.readLanguages id).2 = view bus := hv.readWords id 0 0 bus
  simp only [UsbBus.readTexts]
  split
  next hc =>
    rw [hc] at hx
    simp only [hv.readKept, hx]
  next hc => rwa [hc] at hx
  next hc => rwa [hc] at hx

theorem readUsage (id : Nat) (interface : UInt8) (bus : UsbBus) :
    view (bus.readUsage id interface).2 = view bus := by
  have hx := hv.controlIn id
    { requestType := UsbDevice.standardInterfaceIn, request := UsbDevice.getDescriptor,
      value := UsbDevice.typed UsbDevice.reportDescriptor 0, index := interface.toUInt16 }
    (List.replicate descriptorSize 0) stringTimeout bus
  simp only [UsbBus.readUsage]
  split
  next hc => rwa [hc] at hx
  next hc => rwa [hc] at hx

theorem setReport (l : UsbLink) (type reportId : UInt8) (data : Bytes) (bus : UsbBus) :
    view (bus.setReport l type reportId data).2 = view bus :=
  hv.controlOut l.handle _ data transferTimeout bus

theorem writeLink (l : UsbLink) (report : Bytes) (bus : UsbBus) :
    view (writeLink l report bus).2 = view bus := by
  simp only [UsbBus.writeLink]
  split
  · rfl
  · split
    · rw [snd_sentCount, hv.interruptOut]
    · rw [snd_sentCount, hv.setReport]

theorem sendFeatureLink (l : UsbLink) (report : Bytes) (bus : UsbBus) :
    view (sendFeatureLink l report bus).2 = view bus := by
  simp only [UsbBus.sendFeatureLink]
  split
  · rfl
  · rw [snd_sentCount, hv.setReport]

theorem getFeatureLink (l : UsbLink) (buffer : Bytes) (bus : UsbBus) :
    view (getFeatureLink l buffer bus).2 = view bus := by
  simp only [UsbBus.getFeatureLink]
  split
  · rfl
  next reportId _ =>
    have hx := hv.controlIn l.handle
      (reportRequest l UsbDevice.classInterfaceIn UsbDevice.getReport featureReport reportId)
      (UsbReport.wire buffer) transferTimeout bus
    split
    next hc => rwa [hc] at hx
    next hc => rwa [hc] at hx

theorem textLink (l : UsbLink) (query : StringQuery) (bus : UsbBus) :
    view (textLink l query bus).2 = view bus := by
  cases query with
  | indexed index =>
    simp only [UsbBus.textLink, indexedText]
    split
    · rfl
    · split
      · rfl
      · have hx : view (bus.readLanguages l.handle).2 = view bus := hv.readWords l.handle 0 0 bus
        split
        next hc => rwa [hc] at hx
        next hc => rwa [hc] at hx
        next language _ bus₁ hc =>
          rw [hc] at hx
          have ht := hv.readText l.handle language index bus₁
          split
          all_goals
            next hc => exact (hc ▸ ht).trans hx
  | _ => rfl

theorem readLink (l : UsbLink) (buffer : Bytes) (patience : Duration) (bus : UsbBus) :
    view (readLink l buffer patience bus).2 = view bus := by
  simp only [UsbBus.readLink]
  split
  · rfl
  · split
    · rfl
    · exact hv.readers _ bus
    · rfl

theorem settleReader (r : UsbReader) (bus : UsbBus) : view (settleReader r bus).2 = view bus := by
  simp only [UsbBus.settleReader]
  split
  · rfl
  · exact hv.change _ _ bus

theorem settleReaders (rs : List UsbReader) (bus : UsbBus) :
    view (settleReaders rs bus).2 = view bus := by
  induction rs generalizing bus with
  | nil => rfl
  | cons r rs ih =>
    simp only [UsbBus.settleReaders]
    rw [ih, hv.settleReader]

theorem settle (bus : UsbBus) : view bus.settle = view bus := by
  simp only [UsbBus.settle]
  rw [hv.readers, hv.settleReaders]

theorem startReading (handle device : Nat) (pipes : UsbPipes) (bus : UsbBus) :
    view (bus.startReading handle device pipes).2 = view bus := by
  simp only [UsbBus.startReading, UsbBus.startReader]
  split
  · split
    · rfl
    · rw [hv.settle, hv.readers]
  · rfl

end Steady

theorem steady_table : Steady table where
  note _ _ := rfl
  change _ _ _ := rfl
  readers _ _ := rfl

theorem steady_readerError : Steady (·.readerError) where
  note _ _ := rfl
  change _ _ _ := rfl
  readers _ _ := rfl

theorem table_release (id : Nat) (interface : UInt8) (bus : UsbBus) :
    (bus.release id interface).table.without id = bus.table.without id := by
  have hchange (f : UsbHandle → UsbHandle) (hf : ∀ h, (f h).id = h.id) :
      (bus.handles.map fun h => if h.id == id then f h else h).filter (fun h => h.id != id) =
        bus.handles.filter fun h => h.id != id := by
    induction bus.handles with
    | nil => rfl
    | cons h hs ih =>
      by_cases hid : h.id = id
      · simpa [hid, hf] using ih
      · simpa [hid] using ih
  simp only [release]
  split
  · rfl
  · split
    · rfl
    · simp only [table, UsbTable.without, changeHandle]
      exact congrArg (UsbTable.mk · bus.opened) (hchange _ fun _ => rfl)

theorem table_releases (id : Nat) (claims : List UInt8) (bus : UsbBus) :
    (claims.foldl (fun bus interface => bus.release id interface) bus).table.without id =
      bus.table.without id := by
  induction claims generalizing bus with
  | nil => rfl
  | cons interface claims ih => rw [List.foldl_cons, ih, table_release]

theorem table_close (id : Nat) (bus : UsbBus) : (bus.close id).table = bus.table.without id := by
  simp only [close]
  split
  next hh =>
    have hold : bus.handles.filter (fun h => h.id != id) = bus.handles := by
      apply List.filter_eq_self.mpr
      intro h hmem
      have hne := List.find?_eq_none.mp hh h hmem
      simpa using hne
    simp [table, UsbTable.without, hold]
  next h _ => exact table_releases id h.claims bus

theorem table_releaseLink (l : UsbLink) (bus : UsbBus) :
    (releaseLink l bus).table = bus.table.without l.handle := by
  simp only [releaseLink]
  rw [table_close, table_release]
  rfl

theorem onlyReleasesChange_table (now : Clocked UsbBus → Instant × Clocked UsbBus)
    (hnow : ∀ w, (now w).2.state = w.state) :
    Handle.OnlyReleasesChange backend.clocked.toDeviceCalls now (fun w => w.state.table)
      fun l => UsbTable.without l.handle where
  now w := congrArg table (hnow w)
  release l w := table_releaseLink l w.state
  read l buffer patience w := by
    have hx := steady_table.readLink l buffer patience w.state
    simp only [Backend.clocked, Backend.withRead, DeviceCalls.withRead, Clocked.read, backend]
    generalize readLink l buffer patience w.state = x at hx
    obtain ⟨e | _ | d, bus⟩ := x
    · exact hx
    · exact hx
    · simp only [Clocked.wait]
      split
      · exact hx
      · exact hx
  write l report w := steady_table.writeLink l report w.state
  outputLimit _ _ := rfl
  sendFeature l report w := steady_table.sendFeatureLink l report w.state
  getFeature l buffer w := steady_table.getFeatureLink l buffer w.state
  text l query w := steady_table.textLink l query w.state

end UsbBus

end HidAccess
