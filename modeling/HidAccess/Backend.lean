import HidAccess.BackendKind
import HidAccess.Device
import HidAccess.DeviceList

/-!
# Backends

A backend lists the attached devices and opens the one at a path. The manager adds what all backends have
in common: filters, opening by ids, and the interval that new handles get.
-/

namespace HidAccess

structure Backend (W D R : Type) extends DeviceCalls W D R where
  kind : BackendKind
  enumerate : W → Outcome W DeviceList
  openPath : String → W → Outcome W D

def Backend.withRead (b : Backend W D R)
    (read : D → (buffer : Bytes) → (patience : Duration) → W → Outcome W Q) : Backend W D Q where
  toDeviceCalls := b.toDeviceCalls.withRead read
  kind := b.kind
  enumerate := b.enumerate
  openPath := b.openPath

def Backend.lift (get : V → W) (set : V → W → V) (b : Backend W D R) : Backend V D R where
  toDeviceCalls := b.toDeviceCalls.lift get set
  kind := b.kind
  enumerate v := let (r, w) := b.enumerate (get v); (r, set v w)
  openPath path v := let (r, w) := b.openPath path (get v); (r, set v w)

end HidAccess
