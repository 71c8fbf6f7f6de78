import HidAccess.Proofs.Usb.Listing

/-! Feature reports of a USB interface. The device keeps a report under its interface and the value of the
request, which names the id. An id of 0 is not sent: it is left out on the way to the device and put back in
front of the answer. The length field of a request has 16 bits, so a longer request asks for the remainder
of its length, and brings the report if that is enough for it. -/

namespace HidAccess

namespace UsbReport

def unsent (reportId : UInt8) : Bytes := if reportId = 0 then [0] else []

variable {reportId : UInt8} {rest : Bytes}

theorem unsent_append_wire (reportId : UInt8) (rest : Bytes) :
    unsent reportId ++ wire (reportId :: rest) = reportId :: rest := by
  by_cases hid : reportId = 0 <;> simp [unsent, wire, hid]

theorem length_unsent_add (reportId : UInt8) (rest : Bytes) :
    (unsent reportId).length + (wire (reportId :: rest)).length = (reportId :: rest).length := by
  rw [← List.length_append, unsent_append_wire]

theorem unsent_append_take (reportId : UInt8) (rest : Bytes) (n : Nat) :
    unsent reportId ++ (wire (reportId :: rest)).take n =
      (reportId :: rest).take ((unsent reportId).length + n) := by
  calc unsent reportId ++ (wire (reportId :: rest)).take n
      = (unsent reportId ++ wire (reportId :: rest)).take ((unsent reportId).length + n) :=
        (List.take_length_add_append n).symm
    _ = (reportId :: rest).take ((unsent reportId).length + n) := by rw [unsent_append_wire]

theorem take_unsent (reportId : UInt8) (rest : Bytes) :
    (reportId :: rest).take ((reportId :: rest).length - (wire (reportId :: rest)).length) =
      unsent reportId := by
  have hlength : (reportId :: rest).length - (wire (reportId :: rest)).length =
      (unsent reportId).length := by
    have h := length_unsent_add reportId rest
    omega
  calc (reportId :: rest).take ((reportId :: rest).length - (wire (reportId :: rest)).length)
      = unsent reportId ++ (wire (reportId :: rest)).take 0 := by
        rw [hlength, unsent_append_take, Nat.add_zero]
    _ = unsent reportId := by rw [List.take_zero, List.append_nil]

end UsbReport

namespace UsbDevice

theorem typed_injective {type m n : UInt8} (h : typed type m = typed type n) : m = n := by
  rw [← typed_low type m, ← typed_low type n, h]

/-- What the device keeps as the feature report of an interface. -/
def feature? (interface reportId : UInt8) (d : UsbDevice) : Option Bytes :=
  d.stored.lookup (interface.toUInt16, typed UsbBus.featureReport reportId)

theorem feature?_store (interface reportId reportId' : UInt8) (data : Bytes) (d : UsbDevice) :
    (d.store interface.toUInt16 (typed UsbBus.featureReport reportId) data).feature? interface reportId' =
      if reportId' = reportId then some data else d.feature? interface reportId' := by
  by_cases hid : reportId' = reportId
  · subst hid
    simp [feature?, store]
  · have hkey : ((interface.toUInt16, typed UsbBus.featureReport reportId') ==
        (interface.toUInt16, typed UsbBus.featureReport reportId)) = false :=
      beq_false_of_ne fun h => hid (typed_injective (Prod.ext_iff.mp h).2)
    simp only [feature?, store, List.lookup_cons, hkey, if_neg hid]

end UsbDevice

namespace UsbBus
variable {bus : UsbBus} {l : UsbLink} {index : Nat} {d : UsbDevice} {reportId : UInt8} {rest : Bytes}

/-- The link's device is there, is not known to be gone, and fails no control transfer. -/
structure Serves (l : UsbLink) (index : Nat) (d : UsbDevice) (bus : UsbBus) : Prop where
  known : bus.isLost l = false
  device : bus.deviceOf l.handle = .ok (index, d)
  sound : d.controlFailures = []

theorem Serves.note (hs : Serves l index d bus) (call : UsbCall) : Serves l index d (bus.note call) where
  known := hs.known
  device := hs.device
  sound := hs.sound

theorem Serves.store (hs : Serves l index d bus) (interface value : UInt16) (data : Bytes) :
    Serves l index (d.store interface value data) (bus.change index (UsbDevice.store interface value data)) where
  known := hs.known
  device := by
    obtain ⟨hhandle, hdevice, hattached⟩ := deviceOf_eq_ok.mp hs.device
    refine deviceOf_eq_ok.mpr ⟨hhandle, ?_, hattached⟩
    rw [getElem?_change, hdevice]
    simp
  sound := hs.sound

def carried (report : Bytes) : Bytes :=
  (UsbReport.wire report).take (lengthField (UsbReport.wire report).length)

theorem carried_of_short (h : (UsbReport.wire (reportId :: rest)).length < 65536) :
    carried (reportId :: rest) = UsbReport.wire (reportId :: rest) := by
  have hlength : lengthField (UsbReport.wire (reportId :: rest)).length =
      (UsbReport.wire (reportId :: rest)).length := Nat.mod_eq_of_lt h
  rw [carried, hlength, List.take_length]

theorem length_carried (report : Bytes) :
    (carried report).length = (UsbReport.wire report).length % 65536 := by
  rw [carried, List.length_take, lengthField]
  exact Nat.min_eq_left (Nat.mod_le _ _)

theorem setReport_of_serves (hs : Serves l index d bus) (reportId : UInt8) (data : Bytes) :
    let sent := data.take (lengthField data.length)
    ∃ bus', bus.setReport l featureReport reportId data = (.ok sent.length, bus') ∧
      Serves l index
        (d.store l.interface.toUInt16 (UsbDevice.typed featureReport reportId) sent) bus' := by
  intro sent
  let c := reportRequest l UsbDevice.classInterfaceOut UsbDevice.setReport featureReport reportId
  have hnoted := hs.note (.controlOut c sent transferTimeout)
  refine ⟨_, ?_, hnoted.store l.interface.toUInt16 (UsbDevice.typed featureReport reportId) sent⟩
  have hdevice : (bus.note (.controlOut c sent transferTimeout)).deviceOf l.handle = .ok (index, d) :=
    hnoted.device
  simp only [c, sent] at hdevice
  simp only [setReport, controlOut, hdevice, hs.sound]
  rfl

theorem prepared_of_serves (hs : Serves l index d bus) (reportId : UInt8) (rest : Bytes) :
    (do bus.ensureConnected l; UsbReport.firstByte (reportId :: rest)) = .ok reportId := by
  simp only [ensureConnected, hs.known]
  rfl

theorem sendFeatureLink_of_serves (hs : Serves l index d bus) (reportId : UInt8) (rest : Bytes) :
    ∃ bus', sendFeatureLink l (reportId :: rest) bus =
        (.ok ((UsbReport.unsent reportId).length + (carried (reportId :: rest)).length), bus') ∧
      Serves l index (d.store l.interface.toUInt16 (UsbDevice.typed featureReport reportId)
        (carried (reportId :: rest))) bus' := by
  obtain ⟨bus', hset, hafter⟩ := setReport_of_serves hs reportId (UsbReport.wire (reportId :: rest))
  refine ⟨bus', ?_, hafter⟩
  have hcount : (reportId :: rest).length - (UsbReport.wire (reportId :: rest)).length =
      (UsbReport.unsent reportId).length := by
    have hlength := UsbReport.length_unsent_add reportId rest
    omega
  simp only [sendFeatureLink, prepared_of_serves hs, hset, sentCount, hcount]
  rw [Nat.add_comm]
  rfl

theorem respond_feature (d : UsbDevice) (l : UsbLink) (reportId : UInt8) :
    d.respond (reportRequest l UsbDevice.classInterfaceIn UsbDevice.getReport featureReport reportId) =
      (d.feature? l.interface reportId).elim (.error .pipe) .ok := by
  have hdevice : UsbDevice.classInterfaceIn ≠ UsbDevice.standardDeviceIn := by decide
  have hinterface : UsbDevice.classInterfaceIn ≠ UsbDevice.standardInterfaceIn := by decide
  simp only [UsbDevice.respond, reportRequest, hdevice, hinterface, false_and, if_false, and_self,
    if_true, UsbDevice.feature?]
  cases d.stored.lookup (l.interface.toUInt16, UsbDevice.typed featureReport reportId) <;> rfl

theorem getReport_of_serves (hs : Serves l index d bus) {stored : Bytes}
    (hf : d.feature? l.interface reportId = some stored) (target : Bytes) :
    let c := reportRequest l UsbDevice.classInterfaceIn UsbDevice.getReport featureReport reportId
    bus.controlIn l.handle c target transferTimeout =
      (.ok (.fill target (stored.take (lengthField target.length))),
        bus.note (.controlIn c (lengthField target.length) transferTimeout)) := by
  intro c
  have hdevice : (bus.note (.controlIn c (lengthField target.length) transferTimeout)).deviceOf l.handle =
      .ok (index, d) := hs.device
  have hrespond : d.respond c = .ok stored := by
    rw [respond_feature, hf]
    rfl
  simp only [controlIn, hdevice, hs.sound, hrespond]
  rfl

theorem getFeatureLink_of_serves (hs : Serves l index d bus) {stored : Bytes}
    (hf : d.feature? l.interface reportId = some stored) (rest : Bytes) :
    ∃ r, (getFeatureLink l (reportId :: rest) bus).1 = .ok r ∧
      r.report = UsbReport.unsent reportId ++
        stored.take ((UsbReport.wire (reportId :: rest)).length % 65536) := by
  let target := UsbReport.wire (reportId :: rest)
  let answer : Received := .fill target (stored.take (lengthField target.length))
  have hle : lengthField target.length ≤ target.length := Nat.mod_le _ _
  refine ⟨⟨(UsbReport.unsent reportId).length + answer.count,
    UsbReport.unsent reportId ++ answer.buffer⟩, ?_, ?_⟩
  · simp only [getFeatureLink, prepared_of_serves hs, UsbReport.take_unsent, getReport_of_serves hs hf]
    rfl
  · calc (Received.mk ((UsbReport.unsent reportId).length + answer.count)
          (UsbReport.unsent reportId ++ answer.buffer)).report
        = UsbReport.unsent reportId ++ answer.report := List.take_length_add_append answer.count
      _ = UsbReport.unsent reportId ++ stored.take (lengthField target.length) := by
          rw [Received.report_fill, List.take_take, Nat.min_eq_right hle]

section Handle
variable (now : Clocked UsbBus → Instant × Clocked UsbBus) {h : Handle UsbLink} {w : Clocked UsbBus}

theorem sendFeature_of_serves (hl : h.live? = some l) (hs : Serves l index d w.state) (reportId : UInt8)
    (rest : Bytes) :
    ∃ w', h.sendFeature (platformWith now) (reportId :: rest) w =
        (.ok ((UsbReport.unsent reportId).length + (carried (reportId :: rest)).length), h, w') ∧
      Serves l index (d.store l.interface.toUInt16 (UsbDevice.typed featureReport reportId)
        (carried (reportId :: rest))) w'.state := by
  obtain ⟨bus', hsend, hafter⟩ := sendFeatureLink_of_serves hs reportId rest
  refine ⟨{ w with state := bus' }, ?_, hafter⟩
  have hlive : h.sendFeature (platformWith now) (reportId :: rest) w =
      Handle.settle (platformWith now) h ((sendFeatureLink l (reportId :: rest) w.state).1,
        { w with state := (sendFeatureLink l (reportId :: rest) w.state).2 }) :=
    Handle.sendFeature_of_live _ now hl (List.cons_ne_nil reportId rest) w
  rw [hlive, hsend]
  rfl

def sendFeatures (reports : List Bytes) (h : Handle UsbLink) (w : Clocked UsbBus) :
    Handle UsbLink × Clocked UsbBus :=
  reports.foldl (fun s report => (s.1.sendFeature (platformWith now) report s.2).2) (h, w)

theorem sendFeatures_others (hl : h.live? = some l) (hs : Serves l index d w.state)
    {reports : List Bytes} (hother : ∀ report ∈ reports, report.head? ≠ some reportId) :
    ∃ d' w', sendFeatures now reports h w = (h, w') ∧ Serves l index d' w'.state ∧
      d'.feature? l.interface reportId = d.feature? l.interface reportId := by
  induction reports generalizing d w with
  | nil => exact ⟨d, w, rfl, hs, rfl⟩
  | cons report reports ih =>
    obtain ⟨hfirst, hrest⟩ := List.forall_mem_cons.mp hother
    cases report with
    | nil =>
      exact ih hs hrest
    | cons otherId rest =>
      obtain ⟨w', hsent, hs'⟩ := sendFeature_of_serves now hl hs otherId rest
      obtain ⟨d', w'', hmore, hserves, hsame⟩ := ih hs' hrest
      have hid : reportId ≠ otherId := by
        rintro rfl
        exact hfirst rfl
      refine ⟨d', w'', ?_, hserves, ?_⟩
      · rw [← hmore, sendFeatures, List.foldl_cons, hsent]
        rfl
      · rw [hsame, UsbDevice.feature?_store, if_neg hid]

theorem getFeature_of_serves (hl : h.live? = some l) (hs : Serves l index d w.state) {stored : Bytes}
    (hf : d.feature? l.interface reportId = some stored) {length : Nat} (hz : length ≠ 0)
    (hfits : length ≤ Handle.maxBuffer) :
    (h.getFeature (platformWith now) reportId length w).1 = .returned (.ok (UsbReport.unsent reportId ++
      stored.take ((length - (UsbReport.unsent reportId).length) % 65536))) := by
  obtain ⟨r, hget, hr⟩ := getFeatureLink_of_serves hs hf (List.replicate (length - 1) 0)
  have hbuffer := UsbReport.length_unsent_add reportId (List.replicate (length - 1) 0)
  rw [List.length_cons, List.length_replicate] at hbuffer
  have hsize : (UsbReport.wire (Handle.featureBuffer reportId length)).length =
      length - (UsbReport.unsent reportId).length := by
    rw [Handle.featureBuffer]
    omega
  have hlive : h.getFeature (platformWith now) reportId length w = _ :=
    Handle.getFeature_of_live _ now hl hz hfits reportId w
  rw [hlive, Prod.map_fst, Handle.fst_settle]
  refine (congrArg (fun x => CallResult.returned (Except.map Received.report x)) hget).trans ?_
  rw [← hsize]
  exact congrArg (fun bytes => CallResult.returned (.ok bytes)) hr

end Handle

theorem length_carried_eq_iff (reportId : UInt8) (rest : Bytes) :
    (UsbReport.unsent reportId).length + (carried (reportId :: rest)).length = (reportId :: rest).length ↔
      (reportId :: rest).length - (UsbReport.unsent reportId).length < 65536 := by
  have hlength := UsbReport.length_unsent_add reportId rest
  rw [length_carried, ← hlength, Nat.add_sub_cancel_left, Nat.add_left_cancel_iff]
  omega

/-- A feature report is sent with its full length exactly if its bytes, without an id of 0, fit the length
field of one transfer. After that, whatever reports with other ids are sent, a request for the id brings
the front of the report and never more than it asks for, unless it asks for more than a buffer can hold:
then it crashes. It brings all that it asks for exactly if it does not crash, and the bytes asked for fit the
length field too, or what the field leaves of them is enough for the report. -/
theorem feature_returns_iff (path : String) (l : UsbLink) (interval : Duration) (blocking : Bool)
    (now : Clocked UsbBus → Instant × Clocked UsbBus) (w : Clocked UsbBus) (index : Nat) (d : UsbDevice)
    (hs : Serves l index d w.state) (reportId : UInt8) (rest : Bytes) (others : List Bytes)
    (hother : ∀ report ∈ others, report.head? ≠ some reportId) (length : Nat) (hz : length ≠ 0) :
    let h : Handle UsbLink := { path, device := some l, interval, blocking }
    let report := reportId :: rest
    let skipped := if reportId = 0 then 1 else 0
    let sent := h.sendFeature (platformWith now) report w
    let after := sendFeatures now others sent.2.1 sent.2.2
    let got := (after.1.getFeature (platformWith now) reportId length after.2).1
    let answer := report.take (skipped + (length - skipped) % 65536)
    (sent.1 = .ok report.length ↔ report.length - skipped < 65536) ∧
    (sent.1 = .ok report.length →
      got = if Handle.maxBuffer < length then .crashed .beyondMemory else .returned (.ok answer)) ∧
    answer.length ≤ length ∧
    (sent.1 = .ok report.length → (got = .returned (.ok (report.take length)) ↔ length ≤ Handle.maxBuffer ∧
      (length - skipped < 65536 ∨ report.length - skipped ≤ (length - skipped) % 65536))) := by
  intro h report skipped sent after got answer
  have hl : h.live? = some l := rfl
  have hskipped : skipped = (UsbReport.unsent reportId).length := by
    by_cases hid : reportId = 0 <;> simp [skipped, UsbReport.unsent, hid]
  have hle : skipped ≤ 1 := by
    by_cases hid : reportId = 0 <;> simp [skipped, hid]
  obtain ⟨w', hsent, hserves⟩ := sendFeature_of_serves now hl hs reportId rest
  obtain ⟨d', w'', hafter, hserves', hkept⟩ := sendFeatures_others now hl hserves hother
  have hfull : sent.1 = .ok report.length ↔ report.length - skipped < 65536 := by
    have hanswer : sent.1 = .ok ((UsbReport.unsent reportId).length + (carried report).length) :=
      congrArg Prod.fst hsent
    rw [hanswer, Except.ok.injEq, length_carried_eq_iff, ← hskipped]
  have hgot (hok : sent.1 = .ok report.length) :
      got = if Handle.maxBuffer < length then .crashed .beyondMemory else .returned (.ok answer) := by
    have hshort : (UsbReport.wire report).length < 65536 := by
      have hlength : skipped + (UsbReport.wire report).length = report.length :=
        hskipped ▸ UsbReport.length_unsent_add reportId rest
      have hreport := hfull.mp hok
      omega
    have hstored : d'.feature? l.interface reportId = some (UsbReport.wire report) := by
      rw [hkept, UsbDevice.feature?_store, if_pos rfl, carried_of_short hshort]
    have hreached : after = (h, w'') := by
      simp only [after, sent, report, hsent, hafter]
    simp only [got, hreached]
    split
    next hlong => rw [Handle.getFeature_of_crash _ hz (if_pos hlong)]
    next hfits =>
      rw [getFeature_of_serves now hl hserves' hstored hz (Nat.le_of_not_lt hfits), ← hskipped,
        UsbReport.unsent_append_take, ← hskipped]
  refine ⟨hfull, hgot, ?bound, ?whole⟩
  case bound =>
    have htaken : answer.length ≤ skipped + (length - skipped) % 65536 := List.length_take_le _ _
    omega
  case whole =>
    intro hok
    have hreport := hfull.mp hok
    have hpos : 1 ≤ report.length := Nat.succ_le_of_lt (Nat.zero_lt_succ _)
    rw [hgot hok]
    split
    next hlong => exact iff_of_false nofun fun h => absurd h.1 (Nat.not_le.mpr hlong)
    next hfits =>
      rw [CallResult.returned.injEq, Except.ok.injEq, List.take_eq_take_iff,
        and_iff_right (Nat.le_of_not_lt hfits)]
      omega

def keeper : UsbDevice where
  bus := 1
  address := 4
  deviceClass := 0
  vendorId := 1
  productId := 2
  bcdRelease := 0

def keeperBus : Clocked UsbBus where
  state := {
    devices := [keeper]
    handles := [{ id := 0, device := 0, claims := [0] }]
    opened := 1 }

def keeperLink : UsbLink := { handle := 0, interface := 0, pipes := {}, texts := {} }

def keeperHandle : Handle UsbLink :=
  { path := "0001:0004:00", device := some keeperLink, interval := Duration.millis 20 }

theorem serves_keeper : Serves keeperLink 0 keeper keeperBus.state where
  known := rfl
  device := rfl
  sound := rfl

theorem unnumbered_feature_returns :
    let sent := keeperHandle.sendFeature (platformWith Clocked.clock) [0, 0xAA] keeperBus
    let after := sendFeatures Clocked.clock [[5, 0xBB]] sent.2.1 sent.2.2
    sent.1 = .ok 2 ∧
      (after.1.getFeature (platformWith Clocked.clock) 0 3 after.2).1 = .returned (.ok [0, 0xAA]) := by
  obtain ⟨hsent, hgot, -⟩ := feature_returns_iff "0001:0004:00" keeperLink (Duration.millis 20) true
    Clocked.clock keeperBus 0 keeper serves_keeper 0 [0xAA] [[5, 0xBB]] (by decide) 3 (by decide)
  have hfull := hsent.mpr (by decide)
  exact ⟨hfull, hgot hfull⟩

/-- A request for 65536 bytes asks for none: the report that is there does not come back. -/
theorem long_request_brings_nothing :
    let sent := keeperHandle.sendFeature (platformWith Clocked.clock) [5, 0xAA] keeperBus
    sent.1 = .ok 2 ∧
      (sent.2.1.getFeature (platformWith Clocked.clock) 5 65536 sent.2.2).1 = .returned (.ok []) ∧
      ([5, 0xAA] : Bytes).take 65536 = [5, 0xAA] := by
  intro sent
  have hl : keeperHandle.live? = some keeperLink := rfl
  obtain ⟨w', hsent, hserves⟩ := sendFeature_of_serves Clocked.clock hl serves_keeper 5 [0xAA]
  have hget : (keeperHandle.getFeature (platformWith Clocked.clock) 5 65536 w').1 =
      .returned (.ok (UsbReport.unsent 5 ++
        [5, 0xAA].take ((65536 - (UsbReport.unsent 5).length) % 65536))) :=
    getFeature_of_serves Clocked.clock hl hserves rfl (by decide) (by decide)
  refine ⟨congrArg Prod.fst hsent, ?_, List.take_of_length_le (by decide)⟩
  simp only [sent, hsent, hget]
  rfl

end UsbBus

end HidAccess
