import HidAccess.Proofs.Handle.Operation
import HidAccess.Usb.Backend

/-! Output reports of a USB interface. Two limits stand before the transfer of a write: the handle's,
for the report with its id, and the backend's, for the bytes that are sent. The handle's limit is one
byte above the packet size, so it lets everything through that the backend sends. -/

namespace HidAccess

def UsbCall.isTransfer : UsbCall → Bool
  | .controlIn _ _ _ | .controlOut _ _ _ | .interruptOut _ _ _ => true
  | .opened _ | .closed _ | .autoDetach | .claimed _ | .released _ => false

namespace UsbDevice

theorem toNat_typed (type number : UInt8) :
    (typed type number).toNat = 256 * type.toNat + number.toNat := by
  have hn : number.toNat < 2 ^ 8 := number.toNat_lt
  have ht : type.toNat < 2 ^ 8 := type.toNat_lt
  have hshift : (type.toUInt16 <<< 8).toNat = 2 ^ 8 * type.toNat := by
    rw [UInt16.toNat_shiftLeft, UInt8.toNat_toUInt16, Nat.shiftLeft_eq]
    simp only [UInt16.toNat_ofNat, Nat.reduceMod, Nat.reducePow]
    omega
  rw [typed, UInt16.toNat_or, hshift, UInt8.toNat_toUInt16, ← Nat.two_pow_add_eq_or_of_lt hn]

theorem typed_high (type number : UInt8) : typed type number >>> 8 = type.toUInt16 := by
  have hn := number.toNat_lt
  apply UInt16.toNat_inj.mp
  rw [UInt16.toNat_shiftRight, toNat_typed, UInt8.toNat_toUInt16, Nat.shiftRight_eq_div_pow]
  simp only [UInt16.toNat_ofNat, Nat.reduceMod, Nat.reducePow]
  omega

theorem typed_low (type number : UInt8) : (typed type number).toUInt8 = number := by
  have hn := number.toNat_lt
  apply UInt8.toNat_inj.mp
  rw [UInt16.toNat_toUInt8, toNat_typed]
  omega

end UsbDevice

namespace UsbReport

theorem length_wire (reportId : UInt8) (rest : Bytes) :
    (reportId :: rest).length = (wire (reportId :: rest)).length + if reportId = 0 then 1 else 0 := by
  by_cases hid : reportId = 0 <;> simp [wire, hid]

theorem length_le_wire (reportId : UInt8) (rest : Bytes) :
    (reportId :: rest).length ≤ (wire (reportId :: rest)).length + 1 := by
  rw [length_wire]
  split <;> omega

end UsbReport

/-- The interface takes the bytes in one transfer. -/
def UsbLink.Fits (l : UsbLink) (data : Bytes) : Prop :=
  ∀ e ∈ l.pipes.output, data.length ≤ e.maxPacket.toNat

instance (l : UsbLink) (data : Bytes) : Decidable (l.Fits data) :=
  inferInstanceAs (Decidable (∀ e ∈ l.pipes.output, data.length ≤ e.maxPacket.toNat))

namespace UsbBus
variable {bus : UsbBus} {l : UsbLink} {reportId : UInt8} {rest : Bytes}

def transferCalls (bus : UsbBus) : List UsbCall := bus.calls.filter UsbCall.isTransfer

theorem transferCalls_release (handle : Nat) (interface : UInt8) (bus : UsbBus) :
    transferCalls (bus.release handle interface) = transferCalls bus := by
  simp only [release]
  split
  · rfl
  · split <;> rfl

theorem transferCalls_releases (handle : Nat) (claims : List UInt8) (bus : UsbBus) :
    transferCalls (claims.foldl (fun bus interface => bus.release handle interface) bus) =
      transferCalls bus := by
  induction claims generalizing bus with
  | nil => rfl
  | cons interface claims ih => rw [List.foldl_cons, ih, transferCalls_release]

theorem transferCalls_close (handle : Nat) (bus : UsbBus) :
    transferCalls (bus.close handle) = transferCalls bus := by
  simp only [close]
  split
  · rfl
  next h _ => exact transferCalls_releases handle h.claims bus

theorem transferCalls_releaseLink (l : UsbLink) (bus : UsbBus) :
    transferCalls (releaseLink l bus) = transferCalls bus := by
  simp only [releaseLink, transferCalls_close, transferCalls_release]
  rfl

def outputTransfer (l : UsbLink) (reportId : UInt8) (data : Bytes) (bus : UsbBus) : UsbResult Nat :=
  match l.pipes.output with
  | some e => bus.interruptOut l.handle e.address data transferTimeout
  | none => bus.setReport l outputReport reportId data

def outputCall (l : UsbLink) (reportId : UInt8) (data : Bytes) : UsbCall :=
  match l.pipes.output with
  | some e => .interruptOut e.address data transferTimeout
  | none =>
    .controlOut (reportRequest l UsbDevice.classInterfaceOut UsbDevice.setReport outputReport reportId)
      (data.take (lengthField data.length)) transferTimeout

theorem calls_interruptOut (handle : Nat) (endpoint : UInt8) (data : Bytes) (timeout : Duration)
    (bus : UsbBus) : (bus.interruptOut handle endpoint data timeout).2.calls =
      .interruptOut endpoint data timeout :: bus.calls := by
  simp only [interruptOut]
  split
  · rfl
  · split <;> rfl

theorem calls_controlOut (handle : Nat) (c : UsbControl) (data : Bytes) (timeout : Duration)
    (bus : UsbBus) : (bus.controlOut handle c data timeout).2.calls =
      .controlOut c (data.take (lengthField data.length)) timeout :: bus.calls := by
  simp only [controlOut]
  split
  · rfl
  · split <;> rfl

theorem transferCalls_outputTransfer (l : UsbLink) (reportId : UInt8) (data : Bytes) (bus : UsbBus) :
    transferCalls (outputTransfer l reportId data bus).2 =
      outputCall l reportId data :: transferCalls bus := by
  simp only [outputTransfer, outputCall, setReport, transferCalls]
  cases l.pipes.output with
  | none =>
    rw [calls_controlOut]
    exact List.filter_cons_of_pos rfl
  | some e =>
    rw [calls_interruptOut]
    exact List.filter_cons_of_pos rfl

section Backend

theorem payload_of_fits (hf : l.Fits (UsbReport.wire (reportId :: rest))) :
    UsbReport.payload (reportId :: rest) (l.pipes.output.map (·.maxPacket)) =
      .ok (UsbReport.wire (reportId :: rest)) := by
  simp only [UsbReport.payload, UsbReport.firstByte]
  cases ho : l.pipes.output with
  | none => rfl
  | some e => exact if_neg (Nat.not_lt.mpr (hf e ho))

theorem payload_of_long (hf : ¬ l.Fits (UsbReport.wire (reportId :: rest))) :
    ∃ text, UsbReport.payload (reportId :: rest) (l.pipes.output.map (·.maxPacket)) =
      .error (.validation text) := by
  simp only [UsbReport.payload, UsbReport.firstByte]
  cases ho : l.pipes.output with
  | none => simp [UsbLink.Fits, ho] at hf
  | some e =>
    have hlong : e.maxPacket.toNat < (UsbReport.wire (reportId :: rest)).length := by
      simpa [UsbLink.Fits, ho] using hf
    exact ⟨_, if_pos hlong⟩

theorem writeLink_of_lost (hl : bus.isLost l = true) (report : Bytes) :
    writeLink l report bus = (.error InputQueue.lost, bus) := by
  simp only [writeLink, ensureConnected, hl, if_true]
  rfl

theorem writeLink_of_fits (hl : bus.isLost l = false)
    (hf : l.Fits (UsbReport.wire (reportId :: rest))) :
    writeLink l (reportId :: rest) bus =
      sentCount (reportId :: rest) (UsbReport.wire (reportId :: rest))
        (outputTransfer l reportId (UsbReport.wire (reportId :: rest)) bus) := by
  simp only [writeLink, ensureConnected, hl, payload_of_fits hf, outputTransfer]
  cases l.pipes.output <;> rfl

theorem writeLink_of_long (hl : bus.isLost l = false)
    (hf : ¬ l.Fits (UsbReport.wire (reportId :: rest))) :
    ∃ text, writeLink l (reportId :: rest) bus = (.error (.validation text), bus) := by
  obtain ⟨text, ht⟩ := payload_of_long hf
  refine ⟨text, ?_⟩
  simp only [writeLink, ensureConnected, hl, ht]
  rfl

theorem outputLimit_of_fits (hf : l.Fits (UsbReport.wire (reportId :: rest))) :
    ∀ limit ∈ outputLimit l, (reportId :: rest).length ≤ limit := by
  intro limit hlimit
  obtain ⟨e, he, rfl⟩ := Option.map_eq_some_iff.mp hlimit
  exact Nat.le_trans (UsbReport.length_le_wire reportId rest) (Nat.succ_le_succ (hf e he))

theorem fst_sentCount (reportId : UInt8) (rest : Bytes) (r : UsbResult Nat) :
    (sentCount (reportId :: rest) (UsbReport.wire (reportId :: rest)) r).1 =
      match r.1 with
      | .ok k => .ok (k + if reportId = 0 then 1 else 0)
      | .error e => .error e.toAccess := by
  obtain ⟨e | k, bus⟩ := r
  · rfl
  · have hlength := UsbReport.length_wire reportId rest
    simp only [sentCount, hlength, Nat.add_sub_cancel_left]

theorem snd_sentCount (report data : Bytes) (r : UsbResult Nat) :
    (sentCount report data r).2 = r.2 := by
  obtain ⟨_ | _, _⟩ := r <;> rfl

end Backend

section Handle
variable {α : Type} (now : Clocked UsbBus → Instant × Clocked UsbBus) {h : Handle UsbLink}
  {w : Clocked UsbBus}

def platformWith : Platform (Clocked UsbBus) UsbLink := backend.clocked.toDeviceCalls.alone now

theorem transferCalls_settle (hd : h.device = some l) (x : Outcome (Clocked UsbBus) α) :
    transferCalls (Handle.settle (platformWith now) h x).2.2.state = transferCalls x.2.state := by
  obtain ⟨e | a, w⟩ := x
  · simp only [Handle.settle, Handle.retire, Handle.releaseDevice, hd]
    split
    · exact transferCalls_releaseLink l w.state
    · rfl
  · rfl

theorem write_within {report : Bytes} (hl : h.live? = some l) (hr : report ≠ [])
    (hlimit : ∀ limit ∈ outputLimit l, report.length ≤ limit) :
    h.write (platformWith now) report w = Handle.settle (platformWith now) h
      ((writeLink l report w.state).1, { w with state := (writeLink l report w.state).2 }) := by
  have hwrite : Handle.writeDevice (platformWith now) report l w =
      ((writeLink l report w.state).1, { w with state := (writeLink l report w.state).2 }) :=
    Handle.writeDevice_within hlimit
  rw [← hwrite]
  exact Handle.write_of_live _ now hl hr

theorem write_beyond {report : Bytes} (hl : h.live? = some l) (hr : report ≠ [])
    (hlimit : ¬ ∀ limit ∈ outputLimit l, report.length ≤ limit) :
    ∃ text, h.write (platformWith now) report w = (.error (.validation text), h, w) := by
  obtain ⟨text, ht⟩ : ∃ text, Handle.writeDevice (platformWith now) report l w =
      (.error (.validation text), w) := Handle.writeDevice_beyond hlimit
  have hx : h.write (platformWith now) report w =
      Handle.settle (platformWith now) h (Handle.writeDevice (platformWith now) report l w) :=
    Handle.write_of_live _ now hl hr
  rw [hx, ht]
  exact ⟨text, rfl⟩

theorem write_of_fits (hl : h.live? = some l) (hc : w.state.isLost l = false)
    (hf : l.Fits (UsbReport.wire (reportId :: rest))) :
    let data := UsbReport.wire (reportId :: rest)
    let x := h.write (platformWith now) (reportId :: rest) w
    transferCalls x.2.2.state = outputCall l reportId data :: transferCalls w.state ∧
      x.1 = match (outputTransfer l reportId data w.state).1 with
        | .ok k => .ok (k + if reportId = 0 then 1 else 0)
        | .error e => .error e.toAccess := by
  intro data x
  have hdevice : h.device = some l := (Handle.live?_eq_some.mp hl).2
  have hx : x = Handle.settle (platformWith now) h ((writeLink l (reportId :: rest) w.state).1,
      { w with state := (writeLink l (reportId :: rest) w.state).2 }) :=
    write_within now hl (List.cons_ne_nil reportId rest) (outputLimit_of_fits hf)
  have hlink := writeLink_of_fits hc hf
  constructor
  · calc transferCalls x.2.2.state
        = transferCalls (writeLink l (reportId :: rest) w.state).2 := by
          rw [hx, transferCalls_settle now hdevice]
      _ = transferCalls (outputTransfer l reportId data w.state).2 := by rw [hlink, snd_sentCount]
      _ = outputCall l reportId data :: transferCalls w.state := transferCalls_outputTransfer ..
  · calc x.1
        = (writeLink l (reportId :: rest) w.state).1 := by rw [hx, Handle.fst_settle]
      _ = _ := by rw [hlink, fst_sentCount]

theorem write_of_long (hl : h.live? = some l) (hc : w.state.isLost l = false)
    (hf : ¬ l.Fits (UsbReport.wire (reportId :: rest))) :
    ∃ text, h.write (platformWith now) (reportId :: rest) w = (.error (.validation text), h, w) := by
  have hr : reportId :: rest ≠ [] := List.cons_ne_nil reportId rest
  by_cases hlimit : ∀ limit ∈ outputLimit l, (reportId :: rest).length ≤ limit
  · obtain ⟨text, ht⟩ := writeLink_of_long hc hf
    rw [write_within now hl hr hlimit, ht]
    exact ⟨text, rfl⟩
  · exact write_beyond now hl hr hlimit

theorem write_of_lost {report : Bytes} (hl : h.live? = some l) (hc : w.state.isLost l = true)
    (hr : report ≠ []) :
    transferCalls (h.write (platformWith now) report w).2.2.state = transferCalls w.state := by
  have hdevice : h.device = some l := (Handle.live?_eq_some.mp hl).2
  by_cases hlimit : ∀ limit ∈ outputLimit l, report.length ≤ limit
  · rw [write_within now hl hr hlimit, transferCalls_settle now hdevice, writeLink_of_lost hc]
  · obtain ⟨text, ht⟩ := write_beyond now hl hr hlimit (w := w)
    rw [ht]

end Handle

/-- A write of a report that is not empty, on an open handle. Without the id byte of an unnumbered
report it is the data of one transfer, which is made if and only if the device is not known to be
gone and takes this data; the handle's limit refuses nothing of this kind. The answer counts the id
byte. A report that is too long for a device that is there is refused as it is. Without an endpoint
for output the transfer sets the output report of this id. -/
theorem output_report_gates (path : String) (l : UsbLink) (interval : Duration) (blocking : Bool)
    (now : Clocked UsbBus → Instant × Clocked UsbBus) (w : Clocked UsbBus) (reportId : UInt8)
    (rest : Bytes) :
    let h : Handle UsbLink := { path, device := some l, interval, blocking }
    let report := reportId :: rest
    let data := if reportId = 0 then rest else report
    let sends := w.state.isLost l = false ∧ l.Fits data
    let x := h.write (platformWith now) report w
    transferCalls x.2.2.state = (if sends then [outputCall l reportId data] else []) ++
      transferCalls w.state ∧
    (sends → x.1 = match (outputTransfer l reportId data w.state).1 with
      | .ok k => .ok (k + if reportId = 0 then 1 else 0)
      | .error e => .error e.toAccess) ∧
    (sends → (outputTransfer l reportId data w.state).1 = .ok data.length →
      x.1 = .ok report.length) ∧
    (∀ limit ∈ outputLimit l, limit < report.length →
      ¬ l.Fits data ∧ ∃ e, writeLink l report w.state = (.error e, w.state)) ∧
    (w.state.isLost l = false → ¬ l.Fits data →
      ∃ text, x = (.error (.validation text), h, w)) ∧
    (l.pipes.output = none → ∃ c sent, outputCall l reportId data = .controlOut c sent transferTimeout ∧
      c.requestType = 0x21 ∧ c.request = 0x09 ∧ c.value >>> 8 = 2 ∧ c.value.toUInt8 = reportId ∧
      c.index = l.interface.toUInt16) := by
  intro h report data sends x
  have hl : h.live? = some l := rfl
  have hsent (hs : sends) :
      transferCalls x.2.2.state = outputCall l reportId data :: transferCalls w.state ∧
      x.1 = match (outputTransfer l reportId data w.state).1 with
        | .ok k => .ok (k + if reportId = 0 then 1 else 0)
        | .error e => .error e.toAccess := write_of_fits now hl hs.1 hs.2
  refine ⟨?calls, fun hs => (hsent hs).2, ?complete, ?limit, write_of_long now hl, ?request⟩
  case calls =>
    by_cases hs : sends
    · rw [if_pos hs]
      exact (hsent hs).1
    · rw [if_neg hs]
      cases hc : w.state.isLost l with
      | true => exact write_of_lost now hl hc (List.cons_ne_nil reportId rest)
      | false =>
        obtain ⟨text, ht⟩ := write_of_long now hl hc fun hf => hs ⟨hc, hf⟩
        simp only [x, report, ht]
        rfl
  case complete =>
    intro hs hall
    rw [(hsent hs).2, hall]
    exact congrArg Except.ok (UsbReport.length_wire reportId rest).symm
  case limit =>
    intro limit hlimit hlong
    have hf : ¬ l.Fits data := fun hf =>
      Nat.not_le.mpr hlong (outputLimit_of_fits hf limit hlimit)
    refine ⟨hf, ?_⟩
    cases hc : w.state.isLost l with
    | true => exact ⟨_, writeLink_of_lost hc report⟩
    | false =>
      obtain ⟨text, ht⟩ := writeLink_of_long hc hf
      exact ⟨_, ht⟩
  case request =>
    intro ho
    have hcall : outputCall l reportId data = .controlOut
        (reportRequest l UsbDevice.classInterfaceOut UsbDevice.setReport outputReport reportId)
        (data.take (lengthField data.length)) transferTimeout := by
      simp only [outputCall, ho]
    have htype : UsbDevice.typed outputReport reportId >>> 8 = 2 :=
      (UsbDevice.typed_high outputReport reportId).trans (by decide)
    exact ⟨_, _, hcall, rfl, rfl, htype, UsbDevice.typed_low outputReport reportId, rfl⟩

/-- Of the reports as long as the handle's limit the backend takes those without an id of their own. -/
example :
    let l : UsbLink :=
      { handle := 0, interface := 0, pipes := { output := some ⟨0x01, 3, 2⟩ }, texts := {} }
    outputLimit l = some 3 ∧ (writeLink l [1, 7, 9] {}).1 = .error (UsbReport.tooLong 3 2) ∧
      l.Fits (UsbReport.wire [0, 7, 9]) := ⟨rfl, rfl, by decide⟩

end UsbBus

end HidAccess
