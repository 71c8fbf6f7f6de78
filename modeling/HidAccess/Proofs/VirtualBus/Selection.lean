import HidAccess.Proofs.Handle.Texts
import HidAccess.Proofs.VirtualBus.Identity

/-! Opening by ids. The listing is filtered with ids of which 0 stands for every id, the entries that
are left are compared with the ids as they are, and the path of the first is looked up anew. Together
they choose the first attached device that has these ids, and the serial if one is given. -/

namespace HidAccess

namespace Manager
variable {vendorId productId : UInt16} {serial : Option String} {e : DeviceEntry}

theorem isWanted_iff : isWanted vendorId productId serial e = true ↔
    e.vendorId = vendorId ∧ e.productId = productId ∧
      ∀ text ∈ serial, e.serialNumber = some text := by
  cases serial <;> simp [isWanted, and_assoc]

theorem matchesFilter_of_isWanted (hw : isWanted vendorId productId serial e = true) :
    e.matchesFilter vendorId productId = true := by
  obtain ⟨hv, hp, -⟩ := isWanted_iff.mp hw
  simp [DeviceEntry.matchesFilter, hv, hp]

theorem find?_matching (devices : DeviceList) :
    (devices.matching vendorId productId).find? (isWanted vendorId productId serial) =
      devices.find? (isWanted vendorId productId serial) := by
  -- An id of 0 lets other ids through the filter, but the comparison that follows does not.
  have hboth (e : DeviceEntry) :
      decide (e.matchesFilter vendorId productId = true ∧
        isWanted vendorId productId serial e = true) = isWanted vendorId productId serial e := by
    cases hw : isWanted vendorId productId serial e with
    | false => simp
    | true => simp [matchesFilter_of_isWanted hw]
  simp only [DeviceList.matching, List.find?_filter, hboth]

end Manager

namespace VirtualBus

/-- Both ids are these, 0 as well as any other, and so is the serial if one is given. -/
def Attachment.Matches (vendorId productId : UInt16) (serial : Option String) (a : Attachment) :
    Prop :=
  a.spec.vendorId = vendorId ∧ a.spec.productId = productId ∧
    ∀ text ∈ serial, a.spec.serialNumber = some text

def Attachment.text (a : Attachment) : StringQuery → Option String
  | .manufacturer => a.spec.manufacturer
  | .product => a.spec.product
  | .serial => a.spec.serialNumber
  | .indexed index => a.spec.indexedTexts.reverse.lookup index

theorem text_attachment (d : VirtualDevice) (query : StringQuery) :
    (attachment d).text query = d.textOf query := by
  cases query <;> rfl

section Candidates
variable (vendorId productId : UInt16) (serial : Option String)

instance (a : Attachment) : Decidable (a.Matches vendorId productId serial) :=
  decidable_of_iff (Manager.isWanted vendorId productId serial a.entry = true) Manager.isWanted_iff

def candidates (events : List Event) : List (Attachment × Nat) :=
  (present events).filter fun (a, _) => a.Matches vendorId productId serial

theorem find?_present (events : List Event) :
    ((present events).map fun (a, _) => a.entry).find?
        (Manager.isWanted vendorId productId serial) =
      (candidates vendorId productId serial events).head?.map fun (a, _) => a.entry := by
  have hwanted : Manager.isWanted vendorId productId serial ∘
      (fun x : Attachment × Nat => x.1.entry) =
        fun x => decide (x.1.Matches vendorId productId serial) := by
    funext x
    rw [Bool.eq_iff_iff, decide_eq_true_iff]
    exact Manager.isWanted_iff
  rw [List.find?_map, candidates, List.head?_filter]
  exact congrArg (fun p => ((present events).find? p).map fun x => x.1.entry) hwanted

end Candidates

variable {events : List Event} {s : Traffic} {interval : Duration} {vendorId productId : UInt16}
  {serial : Option String}

theorem openIds_unavailable (hr : Recorded events s.world.state)
    (hu : isUnavailable events = true) :
    (Traffic.manager interval).openIds vendorId productId serial s.world =
      (.error (.enumeration "virtual bus is unavailable"), s.world) := by
  have hbus : s.world.state.unavailable = true := hr.unavailable.trans hu
  simp [Manager.openIds, Manager.enumerate, Traffic.manager, Backend.clocked, Backend.withRead,
    Backend.lift, backend, VirtualBus.enumerate, hbus, Except.map]

theorem openIds_available (hr : Recorded events s.world.state)
    (hu : isUnavailable events = false) :
    (Traffic.manager interval).openIds vendorId productId serial s.world =
      match (candidates vendorId productId serial events).head? with
      | some (a, _) => (Traffic.manager interval).openPath a.path s.world
      | none => (.error (Manager.unmatched vendorId productId serial), s.world) := by
  have hbus : s.world.state.unavailable = false := hr.unavailable.trans hu
  have hlisting : (Traffic.manager interval).enumerate vendorId productId s.world =
      (.ok (DeviceList.matching ((present events).map fun (a, _) => a.entry) vendorId productId),
        s.world) := by
    simp [Manager.enumerate, Traffic.manager, Backend.clocked, Backend.withRead, Backend.lift,
      backend, VirtualBus.enumerate, hbus, Except.map, hr.listed]
  simp only [Manager.openIds, hlisting, Manager.find?_matching, find?_present]
  cases (candidates vendorId productId serial events).head? <;> rfl

/-- The opening reaches the device that was attached as `a` with the number `i`, or this device
refuses it. -/
def Addresses (interval : Duration) (w : Clocked VirtualBus) (a : Attachment) (i : Nat)
    (x : Outcome (Clocked VirtualBus) (Handle Nat)) : Prop :=
  ∃ d reached, w.state.devices[i]? = some d ∧ attachment d = a ∧ Reaching w.state i d reached ∧
    x = Traffic.handled a.path interval w reached

theorem Addresses.not_missing {w : Clocked VirtualBus} {a : Attachment} {i : Nat}
    {x : Outcome (Clocked VirtualBus) (Handle Nat)} (hx : Addresses interval w a i x)
    (text : String) : x.1 ≠ .error (.deviceNotFound text) := by
  obtain ⟨d, reached, -, -, hreaching, rfl⟩ := hx
  cases hreaching <;> nofun

theorem Addresses.ok {w : Clocked VirtualBus} {a : Attachment} {i : Nat}
    {x : Outcome (Clocked VirtualBus) (Handle Nat)} (hx : Addresses interval w a i x)
    {h : Handle Nat} (ho : x.1 = .ok h) : h = Handle.opened a.path i interval := by
  obtain ⟨d, reached, -, -, hreaching, rfl⟩ := hx
  cases hreaching with
  | reached => exact (Except.ok.inj ho).symm
  | denied => cases ho
  | taken => cases ho

theorem openIds_first (hr : Recorded events s.world.state) (hp : s.world.state.Pathed)
    (hu : isUnavailable events = false) {a : Attachment} {i : Nat} {others : List (Attachment × Nat)}
    (hc : candidates vendorId productId serial events = (a, i) :: others) :
    Addresses interval s.world a i
      ((Traffic.manager interval).openIds vendorId productId serial s.world) := by
  have hm : (a, i) ∈ candidates vendorId productId serial events := hc ▸ List.mem_cons_self
  obtain ⟨d, hd, rfl, ha⟩ := hr.mem_present_iff.mp (List.mem_of_mem_filter hm)
  rw [openIds_available hr hu, hc]
  exact ⟨d, _, hd, rfl, openPath_found (find?_of_attached hp hd ha) hd, Traffic.openPath_eq interval _ _⟩

section Handles
variable {n : Nat} {h : Handle Nat} (hn : s.handles[n]? = some h)
include hn

theorem set_path {m : Nat} {h₁ h₂ : Handle Nat} (hm : s.handles[m]? = some h₁)
    (hp : h₂.path = h₁.path) : ∃ h', (s.handles.set m h₂)[n]? = some h' ∧ h'.path = h.path := by
  by_cases hmn : m = n
  · subst hmn
    obtain rfl : h = h₁ := Option.some.inj (hn.symm.trans hm)
    exact ⟨h₂, List.getElem?_set_self (List.getElem?_eq_some_iff.mp hn).1, hp⟩
  · exact ⟨h, by rwa [List.getElem?_set_ne hmn], rfl⟩

theorem keep_path {x : Outcome (Clocked VirtualBus) (Handle Nat)} {e : Event} {s' : Traffic}
    (hx : s.keep x = (e, s')) : ∃ h', s'.handles[n]? = some h' ∧ h'.path = h.path := by
  have hlt := (List.getElem?_eq_some_iff.mp hn).1
  obtain ⟨_ | h₁, w⟩ := x
  · cases hx
    exact ⟨h, hn, rfl⟩
  · cases hx
    exact ⟨h, (List.getElem?_append_left hlt).trans hn, rfl⟩

theorem step_path (a : Action) : ∃ h', (s.step a).2.handles[n]? = some h' ∧ h'.path = h.path := by
  have hs := s.step_stepped a
  generalize (s.step a).1 = e, (s.step a).2 = s' at hs ⊢
  cases hs with
  | openPath hx => exact keep_path hn hx
  | openIds hx => exact keep_path hn hx
  | @operate m o h₁ h₂ answer world hm hx =>
    have hp : (Handle.perform platform o h₁ s.world).2.1.path = h₁.path :=
      (onlyReleasesChange_seats.perform o h₁ s.world).path
    rw [hx] at hp
    exact set_path hn hm hp
  | @slice index r h₁ h₂ progress world hr hm hx =>
    have hp : (h₁.readSlice platform r.reading s.world).2.1.path = h₁.path :=
      (onlyReleasesChange_seats.readSlice r.reading h₁ s.world).path
    rw [hx] at hp
    exact set_path hn hm hp
  | _ => exact ⟨h, hn, rfl⟩

theorem run_path (as : List Action) :
    ∃ h', (s.run as).2.handles[n]? = some h' ∧ h'.path = h.path := by
  have hstep (events : List Event) (s : Traffic) (a : Action)
      (hs : ∃ h', s.handles[n]? = some h' ∧ h'.path = h.path) :
      ∃ h', (s.step a).2.handles[n]? = some h' ∧ h'.path = h.path := by
    obtain ⟨h₁, hn₁, hp₁⟩ := hs
    obtain ⟨h₂, hn₂, hp₂⟩ := step_path hn₁ a
    exact ⟨h₂, hn₂, hp₂.trans hp₁⟩
  exact @Traffic.run_invariant (fun _ s => ∃ h', s.handles[n]? = some h' ∧ h'.path = h.path)
    hstep [] s ⟨h, hn, rfl⟩ as

end Handles

theorem perform_text {h : Handle Nat} {i : Nat} {w : Clocked VirtualBus} {d : VirtualDevice}
    (hl : h.live? = some i) (hd : w.state.devices[i]? = some d) (query : StringQuery) :
    (Handle.perform platform (.text query) h w).1 =
      if d.attached then .text (d.textOf query) else .failed d.unplugged := by
  have hcall : (platform.text i query w).1 =
      (withAttached (fun d => (.ok (d.textOf query), d)) i w.state).1 := rfl
  have ht : (platform.text i query w).1 =
      if d.attached then .ok (d.textOf query) else .error d.unplugged := by
    rw [hcall, withAttached_of_some hd]
    split <;> rfl
  have hperform : Handle.perform platform (.text query) h w =
      Prod.map (.ofExcept .text) id (Handle.settle platform h (platform.text i query w)) :=
    Handle.perform_text_of_live _ Clocked.clock hl query w
  rw [hperform, Prod.map_fst, Handle.fst_settle, ht]
  cases d.attached <;> rfl

/-- As long as the handle `n` has a device, it is `a`, and its texts are those of `a` until this
device is unplugged. -/
def SpeaksFor (events : List Event) (s : Traffic) (n : Nat) (a : Attachment) (i : Nat) : Prop :=
  ∃ h, s.handles[n]? = some h ∧ h.path = a.path ∧
    ∀ k : Nat, h.live? = some k → k = i ∧
      ∀ query, (Handle.perform platform (.text query) h s.world).1 =
        if isPresent events i then .text (a.text query)
        else .failed (.transfer (a.path ++ " was unplugged") true)

theorem speaksFor {gone : List Nat} (hr : Recorded events s.world.state)
    (ha : Accounted gone s.handles (seats s.world.state)) {n i : Nat} {h : Handle Nat}
    {a : Attachment} (hn : s.handles[n]? = some h) (hi : (attachments events)[i]? = some a)
    (hpath : h.path = a.path) : SpeaksFor events s n a i := by
  obtain ⟨d, hd, rfl, hattached⟩ := hr.device hi
  refine ⟨h, hn, hpath, fun k hl => ?_⟩
  have hk : h.path = pathOf k := ((ha.held n h hn k).mp (Handle.live?_eq_some.mp hl).2).1
  have hki : k = i := by
    apply pathOf_injective
    rw [← hk, hpath]
    exact Pathed.path ha.paths hd
  subst hki
  refine ⟨rfl, fun query => ?_⟩
  rw [perform_text hl hd query, hattached, text_attachment]
  rfl

theorem Addresses.texts {w : Clocked VirtualBus} {a : Attachment} {i : Nat}
    {x : Outcome (Clocked VirtualBus) (Handle Nat)} (hx : Addresses interval w a i x)
    (hpresent : ∃ d, w.state.devices[i]? = some d ∧ d.attached = true) {h : Handle Nat}
    (ho : x.1 = .ok h) (query : StringQuery) :
    (Handle.perform platform (.text query) h x.2).1 = .text (a.text query) := by
  obtain rfl := hx.ok ho
  obtain ⟨d, reached, hd, rfl, hreaching, rfl⟩ := hx
  cases hreaching with
  | reached =>
    obtain ⟨d', hd', hattached⟩ := hpresent
    obtain rfl : d = d' := Option.some.inj (hd.symm.trans hd')
    rw [perform_text (d := { d with openHandles := d.openHandles + 1 }) rfl
      (by simp [Traffic.handled, devices_change, hd]), if_pos hattached, text_attachment]
    cases query <;> rfl
  | denied => cases ho
  | taken => cases ho

theorem openIds_speaksFor {as : List Action} (hs : Traffic.run {} as = (events, s)) {a : Attachment}
    {i : Nat} (hm : (a, i) ∈ present events)
    (hx : Addresses interval s.world a i
      ((Traffic.manager interval).openIds vendorId productId serial s.world))
    {h : Handle Nat}
    (ho : ((Traffic.manager interval).openIds vendorId productId serial s.world).1 = .ok h)
    (later : List Action) :
    let all := Traffic.run {} (as ++ .openIds vendorId productId serial interval :: later)
    SpeaksFor all.1 all.2 s.handles.length a i := by
  intro all
  have hall : all =
      let more := s.run (.openIds vendorId productId serial interval :: later)
      (events ++ more.1, more.2) := by
    simp only [all, Traffic.run_append, hs]
  -- Later attachments come behind those that there were, so the number still belongs to `a`.
  have hi : (attachments all.1)[i]? = some a := by
    have hbefore := (mem_present.mp hm).1
    have hlt := (List.getElem?_eq_some_iff.mp hbefore).1
    rw [hall, attachments, List.filterMap_append]
    exact (List.getElem?_append_left hlt).trans hbefore
  have hn : (s.step (.openIds vendorId productId serial interval)).2.handles[
      s.handles.length]? = some h := by
    simp only [Traffic.step]
    generalize (Traffic.manager interval).openIds vendorId productId serial s.world = x at ho
    obtain ⟨r, w⟩ := x
    obtain rfl : r = .ok h := ho
    exact List.getElem?_concat_length
  obtain ⟨h', hn', hpath⟩ := run_path hn later
  have hlast : all.2.handles[s.handles.length]? = some h' := by
    rw [hall]
    exact hn'
  have hp : h'.path = a.path := hpath.trans (congrArg Handle.path (hx.ok ho))
  exact speaksFor (recorded_run _) (accounted_run _) hlast hi hp

/-- At every point of every run from an empty bus: while the bus is unavailable an opening by ids
fails as the listing does. Otherwise it addresses the first attached device with exactly these ids,
and this serial if one is given; it finds nothing if and only if there is none. The handle that it
gives has the texts of this device, as long as it has a device and this device is attached. -/
theorem openIds_selects_first (as : List Action) (vendorId productId : UInt16)
    (serial : Option String) (interval : Duration) :
    let events := (Traffic.run {} as).1
    let s := (Traffic.run {} as).2
    let x := (Traffic.manager interval).openIds vendorId productId serial s.world
    (isUnavailable events = true →
      x = (.error (.enumeration "virtual bus is unavailable"), s.world)) ∧
    (isUnavailable events = false →
      ((∃ text, x.1 = .error (.deviceNotFound text)) ↔
        candidates vendorId productId serial events = []) ∧
      (candidates vendorId productId serial events = [] →
        x = (.error (Manager.unmatched vendorId productId serial), s.world)) ∧
      ∀ a i others, candidates vendorId productId serial events = (a, i) :: others →
        Addresses interval s.world a i x ∧
        ∀ h, x.1 = .ok h →
          (∀ query, (Handle.perform platform (.text query) h x.2).1 = .text (a.text query)) ∧
          ∀ later,
            let all := Traffic.run {} (as ++ .openIds vendorId productId serial interval :: later)
            SpeaksFor all.1 all.2 s.handles.length a i) := by
  intro events s x
  have hr : Recorded events s.world.state := recorded_run as
  have hp : s.world.state.Pathed := pathed_run as
  refine ⟨openIds_unavailable hr, fun hu => ?_⟩
  have hnone (hc : candidates vendorId productId serial events = []) :
      x = (.error (Manager.unmatched vendorId productId serial), s.world) := by
    simp only [x, openIds_available hr hu, hc, List.head?_nil]
  refine ⟨⟨?found, ?missing⟩, hnone, ?first⟩
  case found =>
    rintro ⟨text, hx⟩
    cases hc : candidates vendorId productId serial events with
    | nil => rfl
    | cons first others => exact absurd hx ((openIds_first hr hp hu hc).not_missing text)
  case missing =>
    intro hc
    rw [hnone hc]
    exact ⟨_, rfl⟩
  case first =>
    intro a i others hc
    have hx : Addresses interval s.world a i x := openIds_first hr hp hu hc
    have hm : (a, i) ∈ present events := by
      have hfirst : (a, i) ∈ candidates vendorId productId serial events := by simp [hc]
      exact List.mem_of_mem_filter hfirst
    obtain ⟨d, hd, -, hattached⟩ := hr.mem_present_iff.mp hm
    exact ⟨hx, fun h ho => ⟨hx.texts ⟨d, hd, hattached⟩ ho,
      openIds_speaksFor rfl hm hx ho⟩⟩

theorem unavailable_bus_opens_none :
    ¬ ∀ (as : List Action) (vendorId productId : UInt16) (serial : Option String)
        (interval : Duration),
      let events := (Traffic.run {} as).1
      let s := (Traffic.run {} as).2
      let x := (Traffic.manager interval).openIds vendorId productId serial s.world
      ((∃ text, x.1 = .error (.deviceNotFound text)) ↔
        candidates vendorId productId serial events = []) ∧
      ∀ a i others, candidates vendorId productId serial events = (a, i) :: others →
        Addresses interval s.world a i x := by
  intro h
  have hx := (h [.control (.attach { vendorId := 1, productId := 2 }),
    .control (.setUnavailable true)] 1 2 none (Duration.millis 20)).2 _ 0 [] rfl
  obtain ⟨d, reached, -, -, hreaching, hx⟩ := hx
  cases hreaching <;> cases hx

end VirtualBus

end HidAccess
