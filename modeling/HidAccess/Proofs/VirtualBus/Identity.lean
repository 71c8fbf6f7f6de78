import HidAccess.Proofs.VirtualBus.OpenHandles
import HidAccess.Proofs.VirtualBus.Parts
import Mathlib.Data.List.Nodup

/-! Which devices are on the bus, told from what happened to it: the devices that were attached, in
this order, without those that were unplugged since. A path belongs to one device for good, and
listing and opening agree on the devices that are there. -/

namespace HidAccess.VirtualBus

/-- A device as it was attached: the path that it was given, and its description. -/
structure Attachment where
  path : String
  spec : VirtualSpec

def Attachment.entry (a : Attachment) : DeviceEntry where
  path := a.path
  vendorId := a.spec.vendorId
  productId := a.spec.productId
  serialNumber := a.spec.serialNumber
  releaseNumber := a.spec.releaseNumber
  manufacturer := a.spec.manufacturer
  product := a.spec.product
  usagePage := a.spec.usagePage
  usage := a.spec.usage
  interfaceNumber := a.spec.interfaceNumber
  bus := .virtual

namespace Event

def attachment? : Event → Option Attachment
  | .control (.attach spec) (.text path) => some ⟨path, spec⟩
  | _ => none

def unplugged? : Event → Option Nat
  | .control (.unplug index) .done => some index
  | _ => none

def unavailable? : Event → Option Bool
  | .control (.setUnavailable unavailable) _ => some unavailable
  | _ => none

structure Silent (e : Event) : Prop where
  attachment : e.attachment? = none
  unplugged : e.unplugged? = none
  unavailable : e.unavailable? = none

end Event

def attachments (events : List Event) : List Attachment := events.filterMap Event.attachment?

def unplugs (events : List Event) : List Nat := events.filterMap Event.unplugged?

def isUnavailable (events : List Event) : Bool :=
  (events.filterMap Event.unavailable?).getLast?.getD false

def isPresent (events : List Event) (index : Nat) : Bool := !(unplugs events).contains index

def present (events : List Event) : List (Attachment × Nat) :=
  (attachments events).zipIdx.filter fun (_, index) => isPresent events index

theorem mem_present {events : List Event} {a : Attachment} {index : Nat} :
    (a, index) ∈ present events ↔
      (attachments events)[index]? = some a ∧ isPresent events index = true := by
  simp [present, List.mem_zipIdx_iff_getElem?]

def attachment (d : VirtualDevice) : Attachment := ⟨d.path, d.spec⟩

theorem entry_attachment (d : VirtualDevice) : (attachment d).entry = d.entry := rfl

def standing (d : VirtualDevice) : Attachment × Bool := (attachment d, d.attached)

section Append
variable (events : List Event) (e : Event)

theorem attachments_append : attachments (events ++ [e]) =
    attachments events ++ e.attachment?.toList := filterMap_concat ..

theorem unplugs_append : unplugs (events ++ [e]) = unplugs events ++ e.unplugged?.toList :=
  filterMap_concat ..

theorem isPresent_append (index : Nat) : isPresent (events ++ [e]) index =
    (isPresent events index && decide (e.unplugged? ≠ some index)) := by
  cases h : e.unplugged? with
  | none => simp [isPresent, unplugs_append, h]
  | some k => simp [isPresent, unplugs_append, h, eq_comm (a := k)]

theorem isUnavailable_append : isUnavailable (events ++ [e]) =
    e.unavailable?.getD (isUnavailable events) := by
  cases h : e.unavailable? <;> simp [isUnavailable, h]

end Append

section Silent
variable {s : Traffic}

theorem silent_step {a : Action} (ha : ∀ request, a ≠ .control request) : (s.step a).1.Silent := by
  have hs := s.step_stepped a
  generalize (s.step a).1 = e, (s.step a).2 = s' at hs ⊢
  cases hs with
  | control request => exact absurd rfl (ha request)
  | _ => exact ⟨rfl, rfl, rfl⟩

theorem touches_attached {a : Action} (ha : ∀ request, a ≠ .control request) :
    a.touches .attached = false := by
  cases a with
  | control request => exact absurd rfl (ha request)
  | operate n o => cases o <;> rfl
  | _ => rfl

theorem ignores_standing {part : VirtualDevice.Part} (hp : part ≠ .attached) :
    Ignores standing part := by
  cases part with
  | attached => exact absurd rfl hp
  | _ => exact fun _ _ => rfl

end Silent

structure Recorded (events : List Event) (bus : VirtualBus) : Prop where
  length : (attachments events).length = bus.devices.length
  standings : ∀ index : Nat, bus.devices[index]?.map standing =
    (attachments events)[index]?.map fun a => (a, isPresent events index)
  unplugs : ∀ index ∈ unplugs events, index < bus.devices.length
  unavailable : bus.unavailable = isUnavailable events

namespace Recorded
variable {events : List Event} {bus bus' : VirtualBus} {i : Nat} {d : VirtualDevice}

theorem initial : Recorded [] {} where
  length := rfl
  standings _ := rfl
  unplugs := nofun
  unavailable := rfl

theorem same (hr : Recorded events bus) {e : Event} (he : e.Silent)
    (hs : surface standing bus' = surface standing bus) : Recorded (events ++ [e]) bus' := by
  have hdevices : bus'.devices.map standing = bus.devices.map standing := congrArg Prod.fst hs
  have hunavailable : bus'.unavailable = bus.unavailable := congrArg Prod.snd hs
  have hlength : bus'.devices.length = bus.devices.length := by
    simpa using congrArg List.length hdevices
  constructor
  case length => simpa [attachments_append, he.attachment, hlength] using hr.length
  case standings =>
    intro index
    have hindex := congrArg (·[index]?) hdevices
    simp only [List.getElem?_map] at hindex
    simpa [attachments_append, isPresent_append, he.attachment, he.unplugged] using
      hindex.trans (hr.standings index)
  case unplugs => simpa [unplugs_append, he.unplugged, hlength] using hr.unplugs
  case unavailable =>
    simpa [isUnavailable_append, he.unavailable, hunavailable] using hr.unavailable

theorem attach (hr : Recorded events bus) (spec : VirtualSpec) :
    Recorded (events ++ [.control (.attach spec) (.text (pathOf bus.devices.length))])
      (bus.attach spec) := by
  have hfresh : isPresent events bus.devices.length = true := by
    have hnot : bus.devices.length ∉ VirtualBus.unplugs events := fun hm =>
      Nat.lt_irrefl _ (hr.unplugs _ hm)
    simp [isPresent, hnot]
  constructor
  case length => simp [attachments_append, Event.attachment?, VirtualBus.attach, hr.length]
  case standings =>
    intro index
    simp only [attachments_append, isPresent_append, Event.attachment?, Event.unplugged?,
      Option.toList_some, VirtualBus.attach]
    obtain hlt | rfl | hgt := Nat.lt_trichotomy index bus.devices.length
    · rw [List.getElem?_append_left hlt, List.getElem?_append_left (hr.length ▸ hlt)]
      simpa using hr.standings index
    · simp [← hr.length, standing, attachment, hr.length ▸ hfresh]
    · rw [List.getElem?_eq_none (by simp; omega), List.getElem?_eq_none (by simp [hr.length]; omega)]
      rfl
  case unplugs =>
    intro index hm
    rw [unplugs_append] at hm
    simpa [VirtualBus.attach] using
      Nat.lt_succ_of_lt (hr.unplugs index (by simpa [Event.unplugged?] using hm))
  case unavailable => simpa [isUnavailable_append, Event.unavailable?, VirtualBus.attach] using
    hr.unavailable

theorem unplug (hr : Recorded events bus) (hd : bus.devices[i]? = some d) :
    Recorded (events ++ [.control (.unplug i) .done]) (bus.change i VirtualDevice.unplug) := by
  constructor
  case length => simp [attachments_append, Event.attachment?, change, hr.length]
  case standings =>
    intro index
    have hgone : (standing ∘ fun d => if i = index then d.unplug else d) =
        (fun x : Attachment × Bool => (x.1, x.2 && decide (some i ≠ some index))) ∘ standing := by
      funext d
      by_cases hi : i = index <;> simp [hi, standing, attachment, VirtualDevice.unplug]
    simp only [attachments_append, isPresent_append, Event.attachment?, Event.unplugged?,
      devices_change, Option.toList_none, List.append_nil, Option.map_map, hgone]
    rw [← Option.map_map, hr.standings index, Option.map_map]
    rfl
  case unplugs =>
    intro index hm
    rw [unplugs_append] at hm
    obtain hm | hm := List.mem_append.mp hm
    · simpa [change] using hr.unplugs index hm
    · obtain rfl := List.mem_singleton.mp hm
      simpa [change] using (List.getElem?_eq_some_iff.mp hd).1
  case unavailable => simpa [isUnavailable_append, Event.unavailable?, change] using hr.unavailable

theorem switch (hr : Recorded events bus) (unavailable : Bool) (reply : BusReply) :
    Recorded (events ++ [.control (.setUnavailable unavailable) reply])
      { bus with unavailable } where
  length := by simpa [attachments_append, Event.attachment?] using hr.length
  standings index := by
    simpa [attachments_append, isPresent_append, Event.attachment?, Event.unplugged?] using
      hr.standings index
  unplugs := by simpa [unplugs_append, Event.unplugged?] using hr.unplugs
  unavailable := by simp [isUnavailable_append, Event.unavailable?]

variable {s : Traffic}

theorem step (hr : Recorded events s.world.state) (a : Action) :
    Recorded (events ++ [(s.step a).1]) (s.step a).2.world.state := by
  by_cases hc : ∃ request, a = .control request
  · obtain ⟨request, rfl⟩ := hc
    cases request with
    | attach spec => exact hr.attach spec
    | setUnavailable unavailable => exact hr.switch unavailable .done
    | unplug index =>
      cases hd : s.world.state.devices[index]? with
      | none =>
        simp only [Traffic.step, control, alter, hd]
        exact hr.same ⟨rfl, rfl, rfl⟩ rfl
      | some d =>
        simp only [Traffic.step, control, alter, hd]
        exact hr.unplug hd
    | _ =>
      refine hr.same ⟨rfl, rfl, rfl⟩ (surface_step (by simp) (by simp) fun part hp => ?_)
      exact ignores_standing (by rintro rfl; cases hp)
  · refine hr.same (silent_step fun request he => hc ⟨request, he⟩)
      (surface_step (fun spec he => hc ⟨_, he⟩) (fun _ he => hc ⟨_, he⟩) fun part hp => ?_)
    refine ignores_standing ?_
    rintro rfl
    simp [touches_attached fun request he => hc ⟨request, he⟩] at hp

theorem device (hr : Recorded events bus) {a : Attachment} (ha : (attachments events)[i]? = some a) :
    ∃ d, bus.devices[i]? = some d ∧ attachment d = a ∧ d.attached = isPresent events i := by
  have hi := hr.standings i
  rw [ha, Option.map_some, Option.map_eq_some_iff] at hi
  obtain ⟨d, hd, hstanding⟩ := hi
  obtain ⟨hattachment, hattached⟩ := Prod.ext_iff.mp hstanding
  exact ⟨d, hd, hattachment, hattached⟩

theorem mem_present_iff (hr : Recorded events bus) {a : Attachment} :
    (a, i) ∈ present events ↔
      ∃ d, bus.devices[i]? = some d ∧ attachment d = a ∧ d.attached = true := by
  rw [mem_present]
  constructor
  · rintro ⟨ha, hpresent⟩
    obtain ⟨d, hd, hattachment, hattached⟩ := hr.device ha
    exact ⟨d, hd, hattachment, hattached.trans hpresent⟩
  · rintro ⟨d, hd, rfl, hattached⟩
    have hi := (hr.standings i).symm
    rw [hd, Option.map_some, Option.map_eq_some_iff] at hi
    obtain ⟨a, ha, hstanding⟩ := hi
    obtain ⟨rfl, hpresent⟩ := Prod.ext_iff.mp hstanding
    exact ⟨ha, hpresent.trans hattached⟩

theorem listed (hr : Recorded events bus) :
    (bus.devices.filter (·.attached)).map VirtualDevice.entry =
      (present events).map fun (a, _) => a.entry := by
  have hstandings : bus.devices.map standing =
      (attachments events).zipIdx.map fun (a, index) => (a, isPresent events index) := by
    refine List.ext_getElem? fun index => ?_
    simpa [Function.comp_def] using hr.standings index
  have hkept := congrArg (fun xs => (xs.filter Prod.snd).map fun x => x.1.entry) hstandings
  simpa [List.filter_map, Function.comp_def, standing, entry_attachment, present] using hkept

theorem paths (hr : Recorded events bus) (hp : bus.Pathed) :
    (attachments events).map (·.path) = (List.range bus.devices.length).map pathOf := by
  refine List.ext_getElem? fun index => ?_
  simp only [List.getElem?_map]
  have hi := hr.standings index
  cases hd : bus.devices[index]? with
  | none =>
    rw [hd, Option.map_none, eq_comm, Option.map_eq_none_iff] at hi
    rw [hi, List.getElem?_eq_none (by simpa using List.getElem?_eq_none_iff.mp hd)]
    rfl
  | some d =>
    rw [hd, Option.map_some, eq_comm, Option.map_eq_some_iff] at hi
    obtain ⟨a, ha, hstanding⟩ := hi
    obtain ⟨rfl, -⟩ := Prod.ext_iff.mp hstanding
    have hlt := (List.getElem?_eq_some_iff.mp hd).1
    rw [ha, List.getElem?_range hlt]
    exact congrArg some (hp.path hd)

end Recorded

theorem accounted_run (as : List Action) : Accounted (Traffic.givenUp {} as)
    (Traffic.run {} as).2.handles (seats (Traffic.run {} as).2.world.state) := by
  simpa using run_accounted (s := {}) Accounted.nil as

theorem pathed_run (as : List Action) : (Traffic.run {} as).2.world.state.Pathed :=
  (accounted_run as).paths

theorem recorded_run (as : List Action) :
    Recorded (Traffic.run {} as).1 (Traffic.run {} as).2.world.state := by
  simpa using Traffic.run_invariant (P := fun events s => Recorded events s.world.state) (s := {})
    (fun _ _ a hr => hr.step a) Recorded.initial as

/-- At every point of every run from an empty bus: all devices that were ever attached have paths of
their own; the bus is listed unless it is unavailable, and then as the attached devices in order; the
path of an attached device opens this device and touches no other, or is refused; and no other text
opens anything. What was attached is told by the replies: a path for every attachment, and an
unplugging that is done for every device. -/
theorem devices_identified (as : List Action) :
    let events := (Traffic.run {} as).1
    let s := (Traffic.run {} as).2
    let bus := s.world.state
    ((attachments events).map (·.path)).Nodup ∧
    backend.enumerate bus =
      (if isUnavailable events then .error (.enumeration "virtual bus is unavailable")
        else .ok ((present events).map fun (a, _) => a.entry), bus) ∧
    (∀ a index, (a, index) ∈ present events → ∃ d, bus.devices[index]? = some d ∧
      attachment d = a ∧ Reaching bus index d (backend.openPath a.path bus)) ∧
    (∀ path, (∀ a index, (a, index) ∈ present events → a.path ≠ path) →
      backend.openPath path bus = (.error (.deviceNotFound path), bus)) ∧
    (∀ spec, ∃ path, (s.step (.control (.attach spec))).1 = .control (.attach spec) (.text path)) ∧
    (∀ index < (attachments events).length,
      (s.step (.control (.unplug index))).1 = .control (.unplug index) .done) := by
  intro events s bus
  have hr : Recorded events bus := recorded_run as
  have hp : bus.Pathed := pathed_run as
  refine ⟨?paths, ?listing, ?opening, ?missing, fun spec => ⟨_, rfl⟩, ?unplugging⟩
  case paths =>
    rw [hr.paths hp]
    exact List.Nodup.map (fun _ _ => pathOf_injective) List.nodup_range
  case listing =>
    simp only [backend, VirtualBus.enumerate, hr.unavailable, hr.listed]
  case opening =>
    intro a index hm
    obtain ⟨d, hd, rfl, ha⟩ := hr.mem_present_iff.mp hm
    exact ⟨d, hd, rfl, openPath_found (find?_of_attached hp hd ha) hd⟩
  case missing =>
    intro path hnone
    refine openPath_absent ?_
    cases hf : bus.find? path with
    | none => rfl
    | some index =>
      obtain ⟨d, hd, hpath, ha⟩ := find?_some hf
      exact absurd hpath (hnone _ index (hr.mem_present_iff.mpr ⟨d, hd, rfl, ha⟩))
  case unplugging =>
    intro index hlt
    have hd : s.world.state.devices[index]? = some (bus.devices.get ⟨index, hr.length ▸ hlt⟩) :=
      List.getElem?_eq_getElem _
    simp only [Traffic.step, control, alter, hd]

end HidAccess.VirtualBus
