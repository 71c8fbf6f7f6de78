import HidAccess.Proofs.VirtualBus.OutputLog

/-! The feature reports of a device are a store by id. It holds for each id what was last sent with this id
in front, or staged for it, and gives back that; whatever else is done leaves it as it was. -/

namespace HidAccess

theorem VirtualDevice.feature?_storeFeature (reportId reportId' : UInt8) (report : Bytes)
    (d : VirtualDevice) : (d.storeFeature reportId report).feature? reportId' =
      if reportId' = reportId then some report else d.feature? reportId' := by
  simp only [feature?, storeFeature, List.lookup_cons]
  by_cases hid : reportId' = reportId
  · simp [hid]
  · rw [if_neg hid, beq_false_of_ne hid]
    induction d.features with
    | nil => rfl
    | cons f fs ih =>
      obtain ⟨fid, old⟩ := f
      cases hhit : reportId' == fid with
      | true =>
        have hkept : (fid != reportId) = true := bne_iff_ne.mpr fun he => hid ((beq_iff_eq.mp hhit).trans he)
        simp [hkept, List.lookup_cons, hhit]
      | false =>
        by_cases hf : fid = reportId
        · simpa [hf, List.lookup_cons, beq_false_of_ne hid] using ih
        · simpa [hf, List.lookup_cons, hhit] using ih

namespace VirtualBus

def feature? (device : Nat) (reportId : UInt8) (bus : VirtualBus) : Option Bytes :=
  bus.devices[device]?.bind (·.feature? reportId)

section Calls
variable {α : Type} {call : VirtualDevice → Except AccessError α × VirtualDevice} {h : Handle Nat}
  {w : Clocked VirtualBus} {i : Nat} {d : VirtualDevice}

/-- How a call on a handle's device comes out that tells of no loss by itself: there is no device any
more, it turns out to be gone and is given up, or it answers. -/
inductive Calling (call : VirtualDevice → Except AccessError α × VirtualDevice)
    (h : Handle Nat) (w : Clocked VirtualBus) :
    Except AccessError α × Handle Nat × Clocked VirtualBus → Prop
  | closed : Calling call h w (.error .handleClosed, h, w)
  | gone {i : Nat} {d : VirtualDevice} : h.device = some i → w.state.devices[i]? = some d →
    d.attached = false → Calling call h w (.error d.unplugged, { h with device := none },
      { w with state := w.state.change i fun d => { d with openHandles := d.openHandles - 1 } })
  | answered {i : Nat} {d : VirtualDevice} : h.device = some i → w.state.devices[i]? = some d →
    d.attached = true → Calling call h w ((call d).1, h,
      { w with state := w.state.change i fun d => (call d).2 })

def callDevice (call : VirtualDevice → Except AccessError α × VirtualDevice) (i : Nat)
    (w : Clocked VirtualBus) : Outcome (Clocked VirtualBus) α :=
  ((withAttached call i w.state).1, { w with state := (withAttached call i w.state).2 })

theorem callDevice_of_detached (hd : w.state.devices[i]? = some d) (ha : d.attached = false) :
    callDevice call i w = (.error d.unplugged, w) := by
  rw [callDevice, withAttached_of_some hd, ha, if_neg Bool.false_ne_true]

theorem settle_of_kept {x : Outcome (Clocked VirtualBus) α} (hx : Handle.isLost x.1 = false) :
    Handle.settle platform h x = (x.1, h, x.2) := by
  obtain ⟨e | a, w⟩ := x
  · have he : e.isDisconnect = false := hx
    simp [Handle.settle, he]
  · rfl

theorem withDevice_of_attached (hcall : ∀ d, Handle.isLost (call d).1 = false) (hl : h.live? = some i)
    (hd : w.state.devices[i]? = some d) (ha : d.attached = true) :
    Handle.withDevice platform (callDevice call) h w =
      ((call d).1, h, { w with state := w.state.change i fun d => (call d).2 }) := by
  have hsettle : Handle.withDevice platform (callDevice call) h w =
      Handle.settle platform h (callDevice call i w) := Handle.withDevice_of_live _ _ hl _ _
  rw [hsettle, callDevice, withAttached_of_some hd, if_pos ha]
  exact settle_of_kept (hcall d)

theorem withDevice_cases (hcall : ∀ d, Handle.isLost (call d).1 = false) :
    Calling call h w (Handle.withDevice platform (callDevice call) h w) := by
  cases hl : h.live? with
  | none =>
    have hclosed : Handle.withDevice platform (callDevice call) h w = (.error .handleClosed, h, w) :=
      Handle.withDevice_of_not_live _ _ hl _ _
    rw [hclosed]
    exact .closed
  | some i =>
    have hdevice : h.device = some i := (Handle.live?_eq_some.mp hl).2
    have hsettle : Handle.withDevice platform (callDevice call) h w =
        Handle.settle platform h (callDevice call i w) := Handle.withDevice_of_live _ _ hl _ _
    cases hd : w.state.devices[i]? with
    | none =>
      rw [hsettle, callDevice, withAttached_of_none hd]
      exact .closed
    | some d =>
      cases ha : d.attached with
      | true =>
        rw [withDevice_of_attached hcall hl hd ha]
        exact .answered hdevice hd ha
      | false =>
        rw [hsettle, callDevice_of_detached hd ha, settle_unplugged hdevice]
        exact .gone hdevice hd ha

end Calls

section Operations
variable {h : Handle Nat} {w : Clocked VirtualBus} {i : Nat} {d : VirtualDevice}

theorem sendFeature_eq {report : Bytes} (hr : report ≠ []) :
    h.sendFeature platform report w =
      Handle.withDevice platform (callDevice (VirtualDevice.acceptFeature report)) h w := by
  have he : report.isEmpty = false := List.isEmpty_eq_false_iff.mpr hr
  simp only [Handle.sendFeature, Handle.refuseEmpty, he, Handle.refusing, Bool.false_eq_true, if_false]
  rfl

theorem isLost_fetchFeature (buffer : Bytes) (d : VirtualDevice) :
    Handle.isLost (d.fetchFeature buffer).1 = false := by
  simp only [VirtualDevice.fetchFeature]
  split <;> rfl

theorem getFeature_of_attached (hl : h.live? = some i) (hd : w.state.devices[i]? = some d)
    (ha : d.attached = true) (reportId : UInt8) {length : Nat} (hz : length ≠ 0)
    (hfits : length ≤ Handle.maxBuffer) :
    (h.getFeature platform reportId length w).1 = .returned (match d.feature? reportId with
      | some report => .ok (report.take length)
      | none => .error (VirtualDevice.noFeature reportId)) := by
  have hbuffer : (Handle.featureBuffer reportId length).length = length := by
    simp only [Handle.featureBuffer, List.length_cons, List.length_replicate]
    omega
  have hid : VirtualDevice.reportId (Handle.featureBuffer reportId length) = reportId := rfl
  have hcall : Handle.withDevice platform (fun d w =>
      platform.getFeature d (Handle.featureBuffer reportId length) w) h w = _ :=
    withDevice_of_attached (isLost_fetchFeature (Handle.featureBuffer reportId length)) hl hd ha
  rw [Handle.getFeature_of_fits platform hz hfits, hcall]
  simp only [Prod.map_fst, hid]
  cases d.feature? reportId with
  | none => rfl
  | some report =>
    refine congrArg (fun bytes => CallResult.returned (.ok bytes)) ?_
    rw [Received.report_fill, hbuffer]

end Operations

def Event.stored? (device : Nat) (reportId : UInt8) : Event → Option Bytes
  | .answered source (.sendFeature report) (.count _) =>
    if source = some device ∧ report.head? = some reportId then some report else none
  | .control (.setFeature index stagedId report) .done =>
    if index = device ∧ stagedId = reportId then some report else none
  | _ => none

def lastStored (device : Nat) (reportId : UInt8) (events : List Event) : Option Bytes :=
  (events.filterMap (Event.stored? device reportId)).getLast?

theorem lastStored_append (device : Nat) (reportId : UInt8) (events : List Event) (e : Event) :
    lastStored device reportId (events ++ [e]) =
      (e.stored? device reportId).or (lastStored device reportId events) := by
  rw [lastStored, filterMap_concat]
  cases e.stored? device reportId <;> simp [lastStored]

section Step
variable {s : Traffic} {k : Nat} {reportId : UInt8}

theorem feature?_change {bus : VirtualBus} {i : Nat} {d : VirtualDevice} (hd : bus.devices[i]? = some d)
    (stored : UInt8) (report : Bytes) :
    feature? k reportId (bus.change i (VirtualDevice.storeFeature stored report)) =
      (if i = k ∧ stored = reportId then some report else none).or (feature? k reportId bus) := by
  by_cases hk : i = k
  · subst hk
    by_cases hid : reportId = stored
    · simp [feature?, devices_change, hd, VirtualDevice.feature?_storeFeature, hid]
    · simp [feature?, devices_change, hd, VirtualDevice.feature?_storeFeature, hid, Ne.symm hid]
  · simp [feature?, devices_change, hk]

theorem feature?_attach (spec : VirtualSpec) (bus : VirtualBus) :
    feature? k reportId (bus.attach spec) = feature? k reportId bus := by
  obtain hk | rfl | hk := Nat.lt_trichotomy k bus.devices.length
  · simp [feature?, attach, List.getElem?_append_left hk]
  · simp [feature?, attach, VirtualDevice.feature?]
  · simp [feature?, attach, List.getElem?_eq_none (Nat.le_of_lt hk),
      List.getElem?_append_right (Nat.le_of_lt hk), Nat.sub_ne_zero_of_lt hk]

theorem feature?_of_surface {bus bus' : VirtualBus}
    (hs : surface VirtualDevice.features bus' = surface VirtualDevice.features bus) :
    feature? k reportId bus' = feature? k reportId bus := by
  have hfeatures : (bus'.devices.map VirtualDevice.features)[k]? =
      (bus.devices.map VirtualDevice.features)[k]? := congrArg (·.1[k]?) hs
  have hview (bus : VirtualBus) : feature? k reportId bus =
      (bus.devices.map VirtualDevice.features)[k]?.bind (·.lookup reportId) := by
    rw [List.getElem?_map, Option.bind_map]
    rfl
  rw [hview, hfeatures, ← hview]

theorem ignores_features {part : VirtualDevice.Part} (hp : part ≠ .features) :
    Ignores VirtualDevice.features part := by
  cases part with
  | features => exact absurd rfl hp
  | _ => exact fun _ _ => rfl

def Stores (s : Traffic) (a : Action) : Prop :=
  ∀ k reportId, feature? k reportId (s.step a).2.world.state =
    ((s.step a).1.stored? k reportId).or (feature? k reportId s.world.state)

theorem stores_sendFeature (n : Nat) (report : Bytes) : Stores s (.operate n (.sendFeature report)) := by
  intro k reportId
  simp only [Traffic.step, Traffic.withHandle]
  cases s.handles[n]? with
  | none => rfl
  | some h =>
    simp only [Traffic.operate, Handle.perform]
    by_cases hr : report = []
    · subst hr
      rfl
    · rw [sendFeature_eq hr]
      have hx : Calling (VirtualDevice.acceptFeature report) h s.world _ := withDevice_cases fun _ => rfl
      generalize Handle.withDevice platform (callDevice (VirtualDevice.acceptFeature report)) h s.world = x
        at hx
      cases hx with
      | closed => rfl
      | gone hdevice hd ha =>
        exact feature?_of_surface (surface_change fun _ => rfl)
      | answered hdevice hd _ =>
        obtain ⟨first, rest, rfl⟩ := List.exists_cons_of_ne_nil hr
        refine (feature?_change hd first (first :: rest)).trans ?_
        simp [hdevice, Event.stored?, Handle.Answer.ofExcept, VirtualDevice.acceptFeature]

theorem stores_setFeature (i : Nat) (staged : UInt8) (report : Bytes) :
    Stores s (.control (.setFeature i staged report)) := by
  intro k reportId
  simp only [Traffic.step, control, alter]
  cases hd : s.world.state.devices[i]? with
  | none => rfl
  | some d => exact feature?_change hd staged report

theorem step_stored?_none {a : Action} (hsend : ∀ n report, a ≠ .operate n (.sendFeature report))
    (hstage : ∀ i staged report, a ≠ .control (.setFeature i staged report)) :
    (s.step a).1.stored? k reportId = none := by
  have hs := s.step_stepped a
  generalize (s.step a).1 = e, (s.step a).2 = s' at hs ⊢
  cases hs with
  | @operate n o =>
    cases o with
    | sendFeature report => exact absurd rfl (hsend n report)
    | _ => rfl
  | control request =>
    cases request with
    | setFeature i staged report => exact absurd rfl (hstage i staged report)
    | _ => rfl
  | _ => rfl

theorem touches_features {a : Action} (hsend : ∀ n report, a ≠ .operate n (.sendFeature report))
    (hstage : ∀ i staged report, a ≠ .control (.setFeature i staged report)) :
    a.touches .features = false := by
  cases a with
  | operate n o =>
    cases o with
    | sendFeature report => exact absurd rfl (hsend n report)
    | _ => rfl
  | control request =>
    cases request with
    | setFeature i staged report => exact absurd rfl (hstage i staged report)
    | _ => rfl
  | _ => rfl

theorem step_stores (s : Traffic) (a : Action) : Stores s a := by
  by_cases hsend : ∃ n report, a = .operate n (.sendFeature report)
  · obtain ⟨n, report, rfl⟩ := hsend
    exact stores_sendFeature n report
  by_cases hstage : ∃ i staged report, a = .control (.setFeature i staged report)
  · obtain ⟨i, staged, report, rfl⟩ := hstage
    exact stores_setFeature i staged report
  by_cases hattach : ∃ spec, a = .control (.attach spec)
  · obtain ⟨spec, rfl⟩ := hattach
    exact fun _ _ => feature?_attach spec s.world.state
  by_cases hswitch : ∃ unavailable, a = .control (.setUnavailable unavailable)
  · obtain ⟨unavailable, rfl⟩ := hswitch
    exact fun _ _ => rfl
  -- Whatever else is done tells of nothing stored, and leaves the feature reports alone.
  have hsend (n : Nat) (report : Bytes) : a ≠ .operate n (.sendFeature report) := fun he =>
    hsend ⟨n, report, he⟩
  have hstage (i : Nat) (staged : UInt8) (report : Bytes) : a ≠ .control (.setFeature i staged report) :=
    fun he => hstage ⟨i, staged, report, he⟩
  intro k reportId
  rw [step_stored?_none hsend hstage, Option.none_or]
  refine feature?_of_surface (surface_step (fun spec he => hattach ⟨spec, he⟩)
    (fun unavailable he => hswitch ⟨unavailable, he⟩) fun part hp => ignores_features ?_)
  rintro rfl
  simp [touches_features hsend hstage] at hp

theorem stored?_failed (source : Option Nat) (o : Handle.Operation) (e : AccessError) :
    (Event.answered source o (.failed e)).stored? k reportId = none := by
  cases o <;> rfl

theorem answered_of_some {n : Nat} {h : Handle Nat} (hn : s.handles[n]? = some h) (o : Handle.Operation) :
    (s.step (.operate n o)).1 = .answered h.device o (Handle.perform platform o h s.world).1 := by
  simp only [Traffic.step, Traffic.withHandle, hn]
  rfl

end Step

theorem feature?_run (as : List Action) (k : Nat) (reportId : UInt8) :
    feature? k reportId (Traffic.run {} as).2.world.state =
      lastStored k reportId (Traffic.run {} as).1 := by
  have hrun := Traffic.run_invariant
    (P := fun events s => ∀ k reportId, feature? k reportId s.world.state = lastStored k reportId events)
    (s := {})
    (fun events s a hp k reportId => by rw [step_stores s a k reportId, hp, lastStored_append])
    (fun _ _ => rfl : ∀ k reportId, _ = lastStored k reportId []) as
  simpa using hrun k reportId

/-- At every point of every run from an empty bus, a device holds for each id what was last sent with this
id in front, or staged for it. An open handle of an attached device gets that back, cut to the length asked
for, or an error of a transfer if nothing was ever stored, if the length is one that a buffer can have: a
longer request crashes. A report that is not empty is stored when it is sent through such a handle. Each
action changes what is held for an id by what its event stores for it, if anything; an operation that fails
stores nothing. -/
theorem features_stored (as : List Action) :
    let events := (Traffic.run {} as).1
    let s := (Traffic.run {} as).2
    (∀ i d reportId, s.world.state.devices[i]? = some d →
      (s.step (.control (.feature i reportId))).1 =
        .control (.feature i reportId) (.report? (lastStored i reportId events))) ∧
    (∀ n h i d reportId, s.handles[n]? = some h → h.live? = some i →
      s.world.state.devices[i]? = some d → d.attached = true →
      (∀ length, length ≠ 0 → (s.step (.operate n (.getFeature reportId length))).1 =
        .answered (some i) (.getFeature reportId length)
          (if Handle.maxBuffer < length then .crashed .beyondMemory
          else match lastStored i reportId events with
            | some report => .report (report.take length)
            | none => .failed (VirtualDevice.noFeature reportId))) ∧
      ∀ rest, (s.step (.operate n (.sendFeature (reportId :: rest)))).1 =
        .answered (some i) (.sendFeature (reportId :: rest)) (.count (reportId :: rest).length)) ∧
    (∀ reportId, ∃ text, VirtualDevice.noFeature reportId = .transfer text false) ∧
    (∀ a i reportId, feature? i reportId (s.step a).2.world.state =
      ((s.step a).1.stored? i reportId).or (feature? i reportId s.world.state)) ∧
    (∀ n o source e, (s.step (.operate n o)).1 = .answered source o (.failed e) →
      ∀ i reportId, feature? i reportId (s.step (.operate n o)).2.world.state =
        feature? i reportId s.world.state) := by
  intro events s
  have hheld (i : Nat) (reportId : UInt8) : feature? i reportId s.world.state =
      lastStored i reportId events := feature?_run as i reportId
  have hdevice {i : Nat} {d : VirtualDevice} (hd : s.world.state.devices[i]? = some d) (reportId : UInt8) :
      d.feature? reportId = lastStored i reportId events := by
    rw [← hheld, feature?, hd]
    rfl
  refine ⟨fun i d reportId hd => ?looked, fun n h i d reportId hn hl hd ha => ⟨fun length hz => ?got,
    fun rest => ?sent⟩, fun _ => ⟨_, rfl⟩, step_stores s, fun n o source e he i reportId => ?failed⟩
  case looked =>
    simp only [Traffic.step, control, about, hd, ← hdevice hd]
    rfl
  case got =>
    rw [answered_of_some hn, (Handle.live?_eq_some.mp hl).2, Handle.perform, Prod.map_fst]
    by_cases hfits : length ≤ Handle.maxBuffer
    · rw [if_neg (Nat.not_lt.mpr hfits), getFeature_of_attached hl hd ha reportId hz hfits, hdevice hd]
      cases lastStored i reportId events <;> rfl
    · have hcrash : Handle.bufferCrash? length = some .beyondMemory := if_pos (Nat.lt_of_not_le hfits)
      rw [if_pos (Nat.lt_of_not_le hfits), Handle.getFeature_of_crash platform hz hcrash]
      rfl
  case sent =>
    rw [answered_of_some hn, (Handle.live?_eq_some.mp hl).2, Handle.perform, Prod.map_fst,
      sendFeature_eq (List.cons_ne_nil reportId rest), withDevice_of_attached (fun _ => rfl) hl hd ha]
    rfl
  case failed =>
    rw [step_stores, he, stored?_failed, Option.none_or]

def stagingRun : List Event × Traffic :=
  Traffic.run {} [.control (.attach { vendorId := 1, productId := 2 }),
    .openPath "virtual:0" (Duration.millis 20), .control (.setFeature 0 5 [5, 0xAA])]

/-- The report is there, and comes back when a shorter buffer is asked for. -/
theorem stored_feature_beyond_memory :
    let got (length : Nat) := (stagingRun.2.step (.operate 0 (.getFeature 5 length))).1
    lastStored 0 5 stagingRun.1 = some [5, 0xAA] ∧
      got 8 = .answered (some 0) (.getFeature 5 8) (.report [5, 0xAA]) ∧
      got (Handle.maxBuffer + 1) =
        .answered (some 0) (.getFeature 5 (Handle.maxBuffer + 1)) (.crashed .beyondMemory) :=
  ⟨rfl, rfl, rfl⟩

end VirtualBus
end HidAccess
