import HidAccess.Proofs.Handle.Simulation
import HidAccess.Proofs.VirtualBus.Parts

/-! What is done at one path of a virtual bus reaches no device but the one of this path, and comes
to the same on every bus that has this device. -/

namespace HidAccess

def BusRequest.device? : BusRequest → Option Nat
  | .attach _ | .setUnavailable _ => none
  | .feed device _ | .written device | .setFeature device _ _ | .feature device _
  | .openHandles device | .unplug device | .path device => some device

namespace VirtualBus

def IsAtPath (path : String) (k : Nat) : Prop := path = pathOf k

/-- Two buses that agree on the device at the path. Of all other devices the first is as `b` is. -/
structure AgreeAt (path : String) (b bus bus' : VirtualBus) : Prop where
  inside : ∀ k, IsAtPath path k → bus.devices[k]? = bus'.devices[k]?
  outside : ∀ k, ¬ IsAtPath path k → bus.devices[k]? = b.devices[k]?

structure SameClock (R : VirtualBus → VirtualBus → Prop) (w w' : Clocked VirtualBus) : Prop where
  now : w.now = w'.now
  due : w.due = w'.due
  state : R w.state w'.state

variable {path : String} {b bus bus' : VirtualBus} {k : Nat} {w w' : Clocked VirtualBus} {α : Type}

namespace AgreeAt

theorem change (hb : AgreeAt path b bus bus') (hk : IsAtPath path k) (f : VirtualDevice → VirtualDevice) :
    AgreeAt path b (bus.change k f) (bus'.change k f) where
  inside j hj := by rw [devices_change, devices_change, hb.inside j hj]
  outside j hj := by
    have hne : k ≠ j := fun he => hj (he ▸ hk)
    simpa [devices_change, hne] using hb.outside j hj

theorem withAttached (hb : AgreeAt path b bus bus') (hk : IsAtPath path k)
    (call : VirtualDevice → Except AccessError α × VirtualDevice) :
    Handle.Agreed (AgreeAt path b) (withAttached call k bus) (withAttached call k bus') := by
  cases hd : bus.devices[k]? with
  | none =>
    have hd' : bus'.devices[k]? = none := (hb.inside k hk).symm.trans hd
    rw [withAttached_of_none hd, withAttached_of_none hd']
    exact ⟨rfl, hb⟩
  | some d =>
    have hd' : bus'.devices[k]? = some d := (hb.inside k hk).symm.trans hd
    rw [withAttached_of_some hd, withAttached_of_some hd']
    by_cases ha : d.attached = true
    · simp only [ha, if_true]
      exact ⟨rfl, hb.change hk _⟩
    · simp only [ha]
      exact ⟨rfl, hb⟩

theorem about (hb : AgreeAt path b bus bus') (hk : IsAtPath path k) (reply : VirtualDevice → BusReply) :
    Handle.Agreed (AgreeAt path b) (about k reply bus) (about k reply bus') :=
  ⟨congrArg (fun d => (d.map reply).getD .noDevice) (hb.inside k hk), hb⟩

theorem alter (hb : AgreeAt path b bus bus') (hk : IsAtPath path k) (f : VirtualDevice → VirtualDevice) :
    Handle.Agreed (AgreeAt path b) (alter k f bus) (alter k f bus') := by
  simp only [VirtualBus.alter, ← hb.inside k hk]
  cases bus.devices[k]? with
  | none => exact ⟨rfl, hb⟩
  | some d => exact ⟨rfl, hb.change hk f⟩

theorem control (hb : AgreeAt path b bus bus') {request : BusRequest}
    (hr : request.device? = some k) (hk : IsAtPath path k) :
    Handle.Agreed (AgreeAt path b) (control request bus) (control request bus') := by
  cases request with
  | attach | setUnavailable => cases hr
  | feed | setFeature | unplug =>
    cases hr
    exact hb.alter hk _
  | written | feature | openHandles | path =>
    cases hr
    exact hb.about hk _

end AgreeAt

theorem wait_together {R : VirtualBus → VirtualBus → Prop} (hw : SameClock R w w') (d : Duration) :
    SameClock R (w.wait d) (w'.wait d) := by
  obtain ⟨now, due, bus⟩ := w
  obtain ⟨now', due', bus'⟩ := w'
  obtain ⟨rfl, rfl, hb⟩ := hw
  cases due with
  | none => exact ⟨rfl, rfl, hb⟩
  | some t => exact ⟨rfl, rfl, hb⟩

theorem read_sameClock (hw : SameClock (AgreeAt path b) w w') (hk : IsAtPath path k) (buffer : Bytes)
    (patience : Duration) : Handle.Agreed (SameClock (AgreeAt path b))
      (Clocked.read backend k buffer patience w) (Clocked.read backend k buffer patience w') := by
  obtain ⟨hr, hb⟩ := hw.state.withAttached hk (VirtualDevice.take buffer patience)
  simp only [Clocked.read, backend]
  generalize VirtualBus.withAttached _ k w.state = x, VirtualBus.withAttached _ k w'.state = x'
    at hr hb
  obtain ⟨r, bus⟩ := x
  obtain ⟨r', bus'⟩ := x'
  obtain rfl : r = r' := hr
  have hafter : SameClock (AgreeAt path b) { w with state := bus } { w' with state := bus' } :=
    ⟨hw.now, hw.due, hb⟩
  obtain e | received | wait := r
  · exact ⟨rfl, hafter⟩
  · exact ⟨rfl, hafter⟩
  · exact ⟨rfl, wait_together hafter wait⟩

theorem SameClock.settled {R : VirtualBus → VirtualBus → Prop} (hw : SameClock R w w')
    {x x' : Outcome VirtualBus α} (hx : Handle.Agreed R x x') : Handle.Agreed (SameClock R)
      (x.1, { w with state := x.2 }) (x'.1, { w' with state := x'.2 }) :=
  ⟨hx.result, hw.now, hw.due, hx.world⟩

/-- The calls of a handle at the path cannot tell two such buses apart. -/
theorem simulated_within (path : String) (b : VirtualBus) :
    Handle.Simulated backend.clocked.toDeviceCalls backend.clocked.toDeviceCalls Clocked.clock
      Clocked.clock (IsAtPath path) (SameClock (AgreeAt path b)) where
  now hw := ⟨hw.now, hw⟩
  release hk hw := ⟨hw.now, hw.due, hw.state.change hk _⟩
  read buffer patience hk hw := read_sameClock hw hk buffer patience
  write report hk hw := hw.settled (hw.state.withAttached hk (VirtualDevice.accept report))
  outputLimit {k} _ _ hk hw := ⟨congrArg (·.bind (·.spec.outputLimit)) (hw.state.inside k hk), hw⟩
  sendFeature report hk hw :=
    hw.settled (hw.state.withAttached hk (VirtualDevice.acceptFeature report))
  getFeature buffer hk hw :=
    hw.settled (hw.state.withAttached hk (VirtualDevice.fetchFeature buffer))
  text query hk hw := hw.settled (hw.state.withAttached hk fun d => (.ok (d.textOf query), d))

theorem find?_of_find? (hp : bus.Pathed) (hp' : bus'.Pathed)
    (hs : ∀ k, IsAtPath path k → bus.devices[k]? = bus'.devices[k]?) (hf : bus.find? path = some k) :
    bus'.find? path = some k := by
  obtain ⟨d, hd, rfl, ha⟩ := find?_some hf
  have hd' : bus'.devices[k]? = some d := (hs k (hp.path hd)).symm.trans hd
  exact find?_of_attached hp' hd' ha

theorem AgreeAt.find? (hb : AgreeAt path b bus bus') (hp : bus.Pathed) (hp' : bus'.Pathed) :
    bus.find? path = bus'.find? path := by
  cases hf : bus.find? path with
  | some k => exact (find?_of_find? hp hp' hb.inside hf).symm
  | none =>
    cases hf' : bus'.find? path with
    | none => rfl
    | some k =>
      have hk := find?_of_find? hp' hp (fun k hk => (hb.inside k hk).symm) hf'
      exact absurd (hf.symm.trans hk) nofun

theorem AgreeAt.openPath (hb : AgreeAt path b bus bus') (hp : bus.Pathed) (hp' : bus'.Pathed) :
    Handle.Agreed (AgreeAt path b) (openPath path bus) (openPath path bus') := by
  have hfind := hb.find? hp hp'
  cases hf : bus.find? path with
  | none =>
    rw [openPath_absent hf, openPath_absent (hfind.symm.trans hf)]
    exact ⟨rfl, hb⟩
  | some k =>
    obtain ⟨d, hd, rfl, -⟩ := find?_some hf
    have hk : IsAtPath d.path k := hp.path hd
    have hd' : bus'.devices[k]? = some d := (hb.inside k hk).symm.trans hd
    simp only [VirtualBus.openPath, hfind.symm.trans hf, hf, hd, hd']
    cases d.opened with
    | error e => exact ⟨rfl, hb⟩
    | ok d => exact ⟨rfl, hb.change hk _⟩

theorem isAtPath_of_openPath (hp : bus.Pathed) (ho : (openPath path bus).1 = .ok k) : IsAtPath path k := by
  obtain hx | ⟨i, d, hd, rfl, hx⟩ := openPath_cases path bus
  · rw [hx] at ho
    cases ho
  · generalize openPath d.path bus = x at hx ho
    cases hx with
    | reached =>
      cases ho
      exact hp.path hd
    | denied => cases ho
    | taken => cases ho

end VirtualBus

end HidAccess
