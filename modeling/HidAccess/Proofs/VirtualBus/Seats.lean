import HidAccess.Proofs.VirtualBus.Traffic
import HidAccess.Proofs.Handle.Custody

/-! What a virtual bus keeps about the opening of its devices, and the opening by a path. Apart from
the attaching of a device, opening and release alone change it. -/

namespace HidAccess

structure Seat where
  path : String
  spec : VirtualSpec
  openHandles : Nat

namespace Seat

def taken (s : Seat) : Seat := { s with openHandles := s.openHandles + 1 }

def left (s : Seat) : Seat := { s with openHandles := s.openHandles - 1 }

end Seat

def VirtualDevice.IsFree (d : VirtualDevice) : Prop :=
  d.spec.exclusive = false ∨ d.openHandles = 0

def VirtualDevice.seat (d : VirtualDevice) : Seat where
  path := d.path
  spec := d.spec
  openHandles := d.openHandles

namespace VirtualBus

def seats (bus : VirtualBus) (i : Nat) : Option Seat := bus.devices[i]?.map VirtualDevice.seat

def at? (i : Nat) (f : Seat → Seat) (ss : Nat → Option Seat) : Nat → Option Seat :=
  fun k => if i = k then (ss k).map f else ss k

theorem pathOf_injective {i k : Nat} (h : pathOf i = pathOf k) : i = k := by
  have hs : (toString i).toList = (toString k).toList := by
    simpa [pathOf] using congrArg String.toList h
  have hd := congrArg (fun cs => Nat.ofDigitChars 10 cs 0) hs
  simpa [Nat.toString_eq_ofList_toDigits] using hd

variable {bus : VirtualBus} {i k : Nat} {d : VirtualDevice} {α : Type}

theorem seats_of_some (hd : bus.devices[i]? = some d) : seats bus i = some d.seat := by
  simp [seats, hd]

theorem seats_change {f : VirtualDevice → VirtualDevice} {g : Seat → Seat}
    (hf : ∀ d, (f d).seat = g d.seat) : seats (bus.change i f) = at? i g (seats bus) := by
  funext k
  cases hd : bus.devices[k]? with
  | none => simp [seats, at?, devices_change, hd]
  | some d => by_cases hk : i = k <;> simp [seats, at?, devices_change, hd, hk, hf]

theorem seats_change_same {f : VirtualDevice → VirtualDevice} (hf : ∀ d, (f d).seat = d.seat) :
    seats (bus.change i f) = seats bus := by
  rw [seats_change (g := id) hf]
  funext k
  simp [at?]

theorem seats_withAttached (call : VirtualDevice → Except AccessError α × VirtualDevice)
    (hc : ∀ d, (call d).2.seat = d.seat) : seats (withAttached call i bus).2 = seats bus := by
  cases hd : bus.devices[i]? with
  | none => rw [withAttached_of_none hd]
  | some d =>
    rw [withAttached_of_some hd]
    split
    · exact seats_change_same hc
    · rfl

theorem seats_attach (spec : VirtualSpec) :
    seats (bus.attach spec) = fun k =>
      if k = bus.devices.length then some ⟨pathOf bus.devices.length, spec, 0⟩
      else seats bus k := by
  funext k
  obtain hk | rfl | hk := Nat.lt_trichotomy k bus.devices.length
  · simp [seats, attach, List.getElem?_append_left hk, Nat.ne_of_lt hk]
  · simp [seats, attach, VirtualDevice.seat]
  · simp [seats, attach, List.getElem?_eq_none (Nat.le_of_lt hk), Nat.ne_of_gt hk,
      List.getElem?_append_right (Nat.le_of_lt hk), Nat.sub_ne_zero_of_lt hk]

theorem seats_control {request : BusRequest} (hr : ∀ spec, request ≠ .attach spec) :
    seats (control request bus).2 = seats bus := by
  have halter (index : Nat) {f : VirtualDevice → VirtualDevice} (hf : ∀ d, (f d).seat = d.seat) :
      seats (alter index f bus).2 = seats bus := by
    simp only [alter]
    split
    · exact seats_change_same hf
    · rfl
  cases request with
  | attach spec => exact absurd rfl (hr spec)
  | feed index report => exact halter index fun _ => rfl
  | setFeature index reportId report => exact halter index fun _ => rfl
  | unplug index => exact halter index fun _ => rfl
  | setUnavailable _ | written _ | feature _ _ | openHandles _ | path _ => rfl

theorem take_seat (buffer : Bytes) (patience : Duration) (d : VirtualDevice) :
    (d.take buffer patience).2.seat = d.seat := by
  simp only [VirtualDevice.take]
  split <;> rfl

theorem seats_read (i : Nat) (buffer : Bytes) (patience : Duration) (w : Clocked VirtualBus) :
    seats (Clocked.read backend i buffer patience w).2.state = seats w.state := by
  have hs : seats (withAttached (VirtualDevice.take buffer patience) i w.state).2 =
      seats w.state := seats_withAttached _ (take_seat buffer patience)
  simp only [Clocked.read, backend]
  generalize withAttached (VirtualDevice.take buffer patience) i w.state = x at hs
  obtain ⟨e | _ | d, bus⟩ := x
  · exact hs
  · exact hs
  · simpa using hs

theorem onlyReleasesChange_seats :
    Handle.OnlyReleasesChange backend.clocked.toDeviceCalls Clocked.clock
      (fun w => seats w.state) fun i => at? i Seat.left where
  now _ := rfl
  release _ _ := seats_change fun _ => rfl
  read := seats_read
  write _ report _ := seats_withAttached (VirtualDevice.accept report) fun _ => rfl
  outputLimit _ _ := rfl
  sendFeature _ report _ := seats_withAttached (VirtualDevice.acceptFeature report) fun _ => rfl
  getFeature _ buffer _ := seats_withAttached (VirtualDevice.fetchFeature buffer)
    fun d => congrArg VirtualDevice.seat (fetchFeature_snd buffer d)
  text _ query _ := seats_withAttached (fun d => (.ok (d.textOf query), d)) fun _ => rfl

def Pathed (bus : VirtualBus) : Prop := ∀ i seat, seats bus i = some seat → seat.path = pathOf i

theorem Pathed.path (hp : bus.Pathed) (hd : bus.devices[i]? = some d) : d.path = pathOf i :=
  hp i d.seat (seats_of_some hd)

theorem find?_some {path : String} (hf : bus.find? path = some i) :
    ∃ d, bus.devices[i]? = some d ∧ d.path = path ∧ d.attached = true := by
  obtain ⟨hi, hd, -⟩ := List.findIdx?_eq_some_iff_getElem.mp hf
  simp only [Bool.and_eq_true, beq_iff_eq] at hd
  exact ⟨_, List.getElem?_eq_getElem hi, hd⟩

theorem find?_of_attached (hp : bus.Pathed) (hd : bus.devices[i]? = some d)
    (ha : d.attached = true) : bus.find? d.path = some i := by
  obtain ⟨hi, hx⟩ := List.getElem?_eq_some_iff.mp hd
  refine List.findIdx?_eq_some_iff_getElem.mpr ⟨hi, by simp [hx, ha], fun k hk => ?_⟩
  have hlt : k < bus.devices.length := Nat.lt_trans hk hi
  have hne : bus.devices[k].path ≠ d.path := by
    rw [hp.path hd, hp.path (List.getElem?_eq_getElem hlt)]
    exact fun he => Nat.ne_of_lt hk (pathOf_injective he)
  simp [hne]

theorem opened_free (hn : d.spec.denied = false) (hfree : d.IsFree) :
    d.opened = .ok { d with openHandles := d.openHandles + 1 } := by
  have hx : (d.spec.exclusive && d.openHandles != 0) = false := by
    obtain he | h0 := hfree
    · simp [he]
    · simp [h0]
  simp [VirtualDevice.opened, hn, hx]

theorem opened_taken (hn : d.spec.denied = false) (hfree : ¬ d.IsFree) :
    d.opened = .error (.alreadyOpen d.path) := by
  obtain ⟨he, h0⟩ := not_or.mp hfree
  simp [VirtualDevice.opened, hn, he, h0]

inductive Reaching (bus : VirtualBus) (i : Nat) (d : VirtualDevice) : Outcome VirtualBus Nat → Prop
  | reached : d.spec.denied = false → d.IsFree →
    Reaching bus i d (.ok i, bus.change i fun d => { d with openHandles := d.openHandles + 1 })
  | denied : d.spec.denied = true → Reaching bus i d (.error (.accessDenied d.path), bus)
  | taken : d.spec.denied = false → ¬ d.IsFree →
    Reaching bus i d (.error (.alreadyOpen d.path), bus)

theorem openPath_found {path : String} (hf : bus.find? path = some i)
    (hd : bus.devices[i]? = some d) : Reaching bus i d (openPath path bus) := by
  simp only [openPath, hf, hd]
  cases hn : d.spec.denied with
  | true =>
    simp only [VirtualDevice.opened, hn, if_true]
    exact .denied hn
  | false =>
    by_cases hfree : d.IsFree
    · simp only [opened_free hn hfree,
        change_const hd fun d => { d with openHandles := d.openHandles + 1 }]
      exact .reached hn hfree
    · simp only [opened_taken hn hfree]
      exact .taken hn hfree

theorem openPath_absent {path : String} (hf : bus.find? path = none) :
    openPath path bus = (.error (.deviceNotFound path), bus) := by
  simp only [openPath, hf]

theorem openPath_cases (path : String) (bus : VirtualBus) :
    openPath path bus = (.error (.deviceNotFound path), bus) ∨
      ∃ i d, bus.devices[i]? = some d ∧ d.path = path ∧ Reaching bus i d (openPath path bus) := by
  cases hf : bus.find? path with
  | none => exact .inl (openPath_absent hf)
  | some i =>
    obtain ⟨d, hd, hpath, -⟩ := find?_some hf
    exact .inr ⟨i, d, hd, hpath, openPath_found hf hd⟩

theorem openPath_of_attached (hp : bus.Pathed) (hd : bus.devices[i]? = some d)
    (ha : d.attached = true) (hn : d.spec.denied = false) :
    (openPath d.path bus).1 = .ok i ∧ d.IsFree ∨
      (openPath d.path bus).1 = .error (.alreadyOpen d.path) ∧ ¬ d.IsFree := by
  have hx := openPath_found (find?_of_attached hp hd ha) hd
  generalize openPath d.path bus = x at hx
  cases hx with
  | reached _ hfree => exact .inl ⟨rfl, hfree⟩
  | denied hd => simp [hn] at hd
  | taken _ hfree => exact .inr ⟨rfl, hfree⟩

end VirtualBus

end HidAccess
