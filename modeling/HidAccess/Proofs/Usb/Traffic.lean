import HidAccess.Manager
import HidAccess.Proofs.Usb.Opening

/-! Any number of handles on the interfaces of one USB bus. Beside them the devices may change in any
way, readers may become impossible to start, and the clock may show anything between two actions. A read
goes on by single device reads, each an action of its own. -/

namespace HidAccess.UsbBus

structure Traffic where
  world : Clocked UsbBus
  handles : List (Handle UsbLink) := []

inductive Action where
  | control (request : UsbRequest)
  | alter (device : Nat) (f : UsbDevice → UsbDevice)
  | failReaders (e : Option SystemError)
  | enumerate (vendorId productId : UInt16)
  | openPath (path : String) (interval : Duration)
  | operate (handle : Nat) (o : Handle.Operation)
  | slice (handle : Nat) (r : Reading)
  | tick (now : Instant) (due : Option Instant)

inductive Event where
  | listed (r : Except AccessError DeviceList)
  | opened (r : Except AccessError Nat)
  | answered (answer : Handle.Answer)
  | nothing

namespace Traffic

def start (devices : List UsbDevice) : Traffic := { world := { state := { devices } } }

def bus (s : Traffic) : UsbBus := s.world.state

def onBus (s : Traffic) (f : UsbBus → UsbBus) : Traffic :=
  { s with world := { s.world with state := f s.bus } }

def manager (interval : Duration) : Manager (Clocked UsbBus) UsbLink where
  backend := backend.clocked
  interval

def keep (s : Traffic) : Outcome (Clocked UsbBus) (Handle UsbLink) → Event × Traffic
  | (.ok h, world) => (.opened (.ok s.handles.length), { world, handles := s.handles ++ [h] })
  | (.error e, world) => (.opened (.error e), { s with world })

def operate (s : Traffic) (n : Nat) (o : Handle.Operation) (h : Handle UsbLink) : Event × Traffic :=
  let (answer, h', world) := Handle.perform (platformWith Clocked.clock) o h s.world
  (.answered answer, { world, handles := s.handles.set n h' })

def slice (s : Traffic) (n : Nat) (r : Reading) (h : Handle UsbLink) : Event × Traffic :=
  let (progress, h', world) := Handle.readSlice (platformWith Clocked.clock) r h s.world
  (.answered (.ofSlice progress), { world, handles := s.handles.set n h' })

def withHandle (s : Traffic) (n : Nat) (act : Handle UsbLink → Event × Traffic) : Event × Traffic :=
  match s.handles[n]? with
  | some h => act h
  | none => (.nothing, s)

def step (s : Traffic) : Action → Event × Traffic
  | .control request => (.nothing, s.onBus fun bus => (UsbBus.control request bus).2)
  | .alter index f => (.nothing, s.onBus (change index f))
  | .failReaders e => (.nothing, s.onBus fun bus => { bus with readerError := e })
  | .enumerate vendorId productId =>
    let (r, world) := (manager (Duration.millis 20)).enumerate vendorId productId s.world
    (.listed r, { s with world })
  | .openPath path interval => s.keep ((manager interval).openPath path s.world)
  | .operate n o => s.withHandle n (s.operate n o)
  | .slice n r => s.withHandle n (s.slice n r)
  | .tick now due => (.nothing, { s with world := { s.world with now, due } })

def run (s : Traffic) : List Action → Traffic
  | [] => s
  | a :: as => (s.step a).2.run as

def live (s : Traffic) : List UsbLink := s.handles.filterMap (·.device)

theorem openPath_eq (s : Traffic) (path : String) (interval : Duration) :
    (manager interval).openPath path s.world =
      ((openPath path s.bus).1.map fun l => Handle.opened path l interval,
        { s.world with state := (openPath path s.bus).2 }) := rfl

theorem bus_enumerate (s : Traffic) (vendorId productId : UInt16) :
    (s.step (.enumerate vendorId productId)).2 = s.onBus fun bus => bus.enumerate.2 := rfl

theorem run_invariant {P : Traffic → Prop} (hstep : ∀ s a, P s → P (s.step a).2) {s : Traffic}
    (hs : P s) (as : List Action) : P (s.run as) := by
  induction as generalizing s with
  | nil => exact hs
  | cons a as ih => exact ih (hstep s a hs)

end Traffic

end HidAccess.UsbBus
