import HidAccess.Backend
import HidAccess.Handle

/-!
# The manager

Lists and opens the devices of one backend. It keeps no list of its own: each request asks the backend
anew, and a handle does not depend on the manager that opened it.
-/

namespace HidAccess

structure Manager (W D : Type) where
  backend : Backend W D Received
  /-- The interval of the handles opened from now on. -/
  interval : Duration := Duration.millis 20

namespace Manager

variable {W D : Type}

/-- The attached devices that match the ids; 0 matches every id. -/
def enumerate (m : Manager W D) (vendorId productId : UInt16) (w : W) : Outcome W DeviceList :=
  let (r, w) := m.backend.enumerate w
  (r.map fun devices => devices.matching vendorId productId, w)

def openPath (m : Manager W D) (path : String) (w : W) : Outcome W (Handle D) :=
  let (r, w) := m.backend.openPath path w
  (r.map fun d => Handle.opened path d m.interval, w)

def isWanted (vendorId productId : UInt16) (serial : Option String) (e : DeviceEntry) : Bool :=
  e.vendorId == vendorId && e.productId == productId
    && match serial with
      | some s => e.serialNumber == some s
      | none => true

def unmatched (vendorId productId : UInt16) (serial : Option String) : AccessError :=
  let ids := DeviceEntry.idPair vendorId productId
  .deviceNotFound (match serial with
    | some s => ids ++ " serial " ++ s
    | none => ids)

def openIds (m : Manager W D) (vendorId productId : UInt16) (serial : Option String) (w : W) :
    Outcome W (Handle D) :=
  match m.enumerate vendorId productId w with
  | (.error e, w) => (.error e, w)
  | (.ok devices, w) =>
    match devices.find? (isWanted vendorId productId serial) with
    | some e => m.openPath e.path w
    | none => (.error (unmatched vendorId productId serial), w)

def shownWith (kind : BackendKind) (interval : Duration) : String :=
  "Manager \x7b backend: " ++ kind.shown ++ ", poll_interval: " ++ interval.shown ++ " \x7d"

def shown (m : Manager W D) : String := shownWith m.backend.kind m.interval

end Manager

end HidAccess
