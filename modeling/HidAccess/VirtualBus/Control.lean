import HidAccess.Session
import HidAccess.VirtualBus

/-!
# The far side of the virtual bus

What stands in for the devices' own doing: attaching and unplugging, the reports that devices send, and a
look at what they got.
-/

namespace HidAccess

inductive BusRequest where
  | attach (spec : VirtualSpec)
  | setUnavailable (unavailable : Bool)
  | feed (device : Nat) (report : Bytes)
  | written (device : Nat)
  | setFeature (device : Nat) (id : UInt8) (report : Bytes)
  | feature (device : Nat) (id : UInt8)
  | openHandles (device : Nat)
  | unplug (device : Nat)
  | path (device : Nat)

inductive BusReply where
  | done
  | text (s : String)
  | reports (rs : List Bytes)
  | report? (r : Option Bytes)
  | count (n : Nat)
  | noDevice

namespace VirtualBus

def about (index : Nat) (reply : VirtualDevice → BusReply) (bus : VirtualBus) : BusReply × VirtualBus :=
  ((bus.devices[index]?.map reply).getD .noDevice, bus)

def alter (index : Nat) (f : VirtualDevice → VirtualDevice) (bus : VirtualBus) : BusReply × VirtualBus :=
  match bus.devices[index]? with
  | some _ => (.done, bus.change index f)
  | none => (.noDevice, bus)

def control : BusRequest → VirtualBus → BusReply × VirtualBus
  | .attach spec, bus => (.text (pathOf bus.devices.length), bus.attach spec)
  | .setUnavailable unavailable, bus => (.done, { bus with unavailable })
  | .feed index report, bus => alter index (VirtualDevice.feed report) bus
  | .written index, bus => about index (fun d => .reports d.written) bus
  | .setFeature index id report, bus => alter index (VirtualDevice.storeFeature id report) bus
  | .feature index id, bus => about index (fun d => .report? (d.feature? id)) bus
  | .openHandles index, bus => about index (fun d => .count d.openHandles) bus
  | .unplug index, bus => alter index VirtualDevice.unplug bus
  | .path index, bus => about index (fun d => .text d.path) bus

def bench : Bench VirtualBus Nat BusRequest BusReply where
  backend := backend
  act := control

end VirtualBus

end HidAccess
