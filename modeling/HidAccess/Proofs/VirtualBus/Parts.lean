import HidAccess.Proofs.VirtualBus.Seats

/-! Which parts of a device an action can change. A view of the devices that does not show any part
that an action touches is the same after it. -/

namespace HidAccess

inductive VirtualDevice.Part where
  | attached
  | openHandles
  | input
  | output
  | features
  deriving DecidableEq

open VirtualDevice (Part)

namespace Handle
variable {W D : Type}

/-- Every operation may find the device gone and then gives it up. -/
def Operation.touches : Operation → Part → Bool
  | .read _ _ _, .input | .write _, .output | .sendFeature _, .features => true
  | _, part => part == .openHandles

/-- The calls of a device, of which those that the operation does not make fail. -/
def Operation.callsIn (o : Operation) (c : DeviceCalls W D Received) : DeviceCalls W D Received :=
  { c with
    read := bif o.touches .input then c.read else fun _ _ _ w => (.error .handleClosed, w)
    write := bif o.touches .output then c.write else fun _ _ w => (.error .handleClosed, w)
    sendFeature :=
      bif o.touches .features then c.sendFeature else fun _ _ w => (.error .handleClosed, w) }

variable (c : DeviceCalls W D Received) (now : W → Instant × W)

theorem readSlice_callsIn (more length : Nat) (timeout : Option Duration) (r : Reading)
    (h : Handle D) (w : W) :
    readSlice (((Operation.read more length timeout).callsIn c).alone now) r h w =
      readSlice (c.alone now) r h w := rfl

theorem readSlices_callsIn (more length : Nat) (timeout : Option Duration) (slices : Nat)
    (r : Reading) (h : Handle D) (w : W) :
    readSlices (((Operation.read more length timeout).callsIn c).alone now) slices r h w =
      readSlices (c.alone now) slices r h w := by
  induction slices generalizing r h w with
  | zero => rfl
  | succ slices ih => simp only [readSlices, readSlice_callsIn, ih]

theorem perform_callsIn (o : Operation) (h : Handle D) (w : W) :
    perform ((o.callsIn c).alone now) o h w = perform (c.alone now) o h w := by
  cases o with
  | read more length timeout =>
    simp only [perform, read, readSlices_callsIn]
    rfl
  | _ => rfl

end Handle

namespace VirtualBus
variable {β : Type} {view : VirtualDevice → β}

def Ignores (view : VirtualDevice → β) : Part → Prop
  | .attached => ∀ d attached, view { d with attached } = view d
  | .openHandles => ∀ d openHandles, view { d with openHandles } = view d
  | .input => ∀ d input, view { d with input } = view d
  | .output => ∀ d output, view { d with output } = view d
  | .features => ∀ d features, view { d with features } = view d

/-- What a view shows of the devices of a bus, and whether the bus can be listed. -/
def surface (view : VirtualDevice → β) (bus : VirtualBus) : List β × Bool :=
  (bus.devices.map view, bus.unavailable)

variable {bus : VirtualBus} {i : Nat}

theorem surface_change {f : VirtualDevice → VirtualDevice} (hf : ∀ d, view (f d) = view d) :
    surface view (bus.change i f) = surface view bus := by
  refine Prod.ext (List.ext_getElem? fun k => ?_) rfl
  simp only [surface, List.getElem?_map, devices_change, Option.map_map]
  congr 1
  funext d
  by_cases hk : i = k <;> simp [hk, hf]

theorem surface_withAttached {α : Type} (call : VirtualDevice → Except AccessError α × VirtualDevice)
    (hc : ∀ d, view (call d).2 = view d) :
    surface view (withAttached call i bus).2 = surface view bus := by
  cases hd : bus.devices[i]? with
  | none => rw [withAttached_of_none hd]
  | some d =>
    rw [withAttached_of_some hd]
    split
    · exact surface_change hc
    · rfl

theorem surface_alter {f : VirtualDevice → VirtualDevice} (hf : ∀ d, view (f d) = view d) :
    surface view (alter i f bus).2 = surface view bus := by
  simp only [alter]
  split
  · exact surface_change hf
  · rfl

theorem surface_openPath (hv : Ignores view .openHandles) (path : String) :
    surface view (openPath path bus).2 = surface view bus := by
  obtain hx | ⟨i, d, -, -, hx⟩ := openPath_cases path bus
  · rw [hx]
  · generalize openPath path bus = x at hx
    cases hx with
    | reached => exact surface_change fun d => hv d _
    | denied => rfl
    | taken => rfl

theorem surface_read (hv : Ignores view .input) (i : Nat) (buffer : Bytes) (patience : Duration)
    (w : Clocked VirtualBus) :
    surface view (Clocked.read backend i buffer patience w).2.state = surface view w.state := by
  have htake (d : VirtualDevice) : view (d.take buffer patience).2 = view d := by
    simp only [VirtualDevice.take]
    split
    · exact hv d _
    · rfl
  have hs : surface view (withAttached (VirtualDevice.take buffer patience) i w.state).2 =
      surface view w.state := surface_withAttached _ htake
  simp only [Clocked.read, backend]
  generalize withAttached (VirtualDevice.take buffer patience) i w.state = x at hs
  obtain ⟨e | _ | wait, bus⟩ := x
  · exact hs
  · exact hs
  · simpa using hs

/-- Of the calls that an operation makes, those that change a view are the ones for the parts that
it touches, and none of them if the view ignores these parts. -/
theorem onlyReleasesChange_surface {o : Handle.Operation}
    (hv : ∀ part, o.touches part = true → Ignores view part) :
    Handle.OnlyReleasesChange (o.callsIn backend.clocked.toDeviceCalls) Clocked.clock
      (fun w => surface view w.state) fun _ shown => shown where
  now _ := rfl
  release i w := by
    have hopen : Ignores view .openHandles := hv .openHandles (by cases o <;> rfl)
    exact surface_change fun d => hopen d _
  read i buffer patience w := by
    cases o with
    | read => exact surface_read (hv .input rfl) i buffer patience w
    | _ => rfl
  write i report w := by
    cases o with
    | write => exact surface_withAttached (VirtualDevice.accept report) fun d => hv .output rfl d _
    | _ => rfl
  outputLimit _ _ := rfl
  sendFeature i report w := by
    cases o with
    | sendFeature => exact surface_withAttached (VirtualDevice.acceptFeature report) fun d => hv .features rfl d _
    | _ => rfl
  getFeature _ buffer _ := surface_withAttached (VirtualDevice.fetchFeature buffer)
    fun d => congrArg view (fetchFeature_snd buffer d)
  text _ query _ := surface_withAttached (fun d => (.ok (d.textOf query), d)) fun _ => rfl

def Action.touches : Action → Part → Bool
  | .control (.feed _ _), part => part == .input
  | .control (.setFeature _ _ _), part => part == .features
  | .control (.unplug _), part => part == .attached
  | .openPath _ _, part | .openIds _ _ _ _, part => part == .openHandles
  | .operate _ o, part => o.touches part
  | .slice _, part => part == .input || part == .openHandles
  | .control _, _ | .begin _ _ _, _ | .tick _ _, _ => false

section Step
variable {s : Traffic}

theorem surface_control {request : BusRequest} (ha : ∀ spec, request ≠ .attach spec)
    (hu : ∀ unavailable, request ≠ .setUnavailable unavailable)
    (hv : ∀ part, (Action.control request).touches part = true → Ignores view part) :
    surface view (control request bus).2 = surface view bus := by
  cases request with
  | attach spec => exact absurd rfl (ha spec)
  | setUnavailable unavailable => exact absurd rfl (hu unavailable)
  | feed index report => exact surface_alter fun d => hv .input rfl d _
  | setFeature index reportId report => exact surface_alter fun d => hv .features rfl d _
  | unplug index => exact surface_alter fun d => hv .attached rfl d _
  | written _ | feature _ _ | openHandles _ | path _ => rfl

theorem surface_keep {x : Outcome (Clocked VirtualBus) (Handle Nat)}
    (hx : surface view x.2.state = surface view s.world.state) :
    surface view (s.keep x).2.world.state = surface view s.world.state := by
  obtain ⟨e | h, w⟩ := x
  · exact hx
  · exact hx

theorem surface_openIds (hv : Ignores view .openHandles) (interval : Duration)
    (vendorId productId : UInt16) (serial : Option String) (w : Clocked VirtualBus) :
    surface view ((Traffic.manager interval).openIds vendorId productId serial w).2.state =
      surface view w.state := by
  obtain ⟨e, hx⟩ | ⟨path, hx⟩ := Traffic.openIds_cases interval vendorId productId serial w
  · rw [hx]
  · rw [hx]
    exact surface_openPath hv path

/-- An action changes nothing that a view shows if the view ignores all that the action touches. -/
theorem surface_step {a : Action} (ha : ∀ spec, a ≠ .control (.attach spec))
    (hu : ∀ unavailable, a ≠ .control (.setUnavailable unavailable))
    (hv : ∀ part, a.touches part = true → Ignores view part) :
    surface view (s.step a).2.world.state = surface view s.world.state := by
  have hs := s.step_stepped a
  generalize (s.step a).1 = e, (s.step a).2 = s' at hs ⊢
  cases hs with
  | control request =>
    exact surface_control (fun spec he => ha spec (he ▸ rfl)) (fun b he => hu b (he ▸ rfl)) hv
  | @openPath path interval r s' hx =>
    have hkeep := surface_keep (s := s) (x := (Traffic.manager interval).openPath path s.world)
      (surface_openPath (hv .openHandles rfl) path)
    rwa [hx] at hkeep
  | @openIds vendorId productId serial interval r s' hx =>
    have hkeep := surface_keep (s := s)
      (surface_openIds (hv .openHandles rfl) interval vendorId productId serial s.world)
    rwa [hx] at hkeep
  | @operate n o h h' answer world hn hx =>
    have hc : surface view (Handle.perform platform o h s.world).2.2.state =
        surface view s.world.state := by
      have hcalls := ((onlyReleasesChange_surface hv).perform o h s.world).unchanged
      rwa [Handle.perform_callsIn] at hcalls
    rwa [hx] at hc
  | @slice index r h h' progress world hr hn hx =>
    have hread (part : Part) (hp : (Handle.Operation.read 0 0 none).touches part = true) :
        Ignores view part := hv part (by cases part <;> first | rfl | cases hp)
    have hc : surface view (h.readSlice platform r.reading s.world).2.2.state =
        surface view s.world.state :=
      ((onlyReleasesChange_surface hread).readSlice r.reading h s.world).unchanged
    rwa [hx] at hc
  | _ => rfl

end Step

end VirtualBus
end HidAccess
