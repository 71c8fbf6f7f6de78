import HidAccess.DeviceEntry

/-!
# Device lists

The result of one enumeration, in the order in which the backend reported the devices. A list is shown
as one block per device: a line per field, then an empty line.
-/

namespace HidAccess

abbrev DeviceList := List DeviceEntry

namespace DeviceList

def findPath? (devices : DeviceList) (path : String) : Option DeviceEntry :=
  devices.find? fun e => e.path == path

def matching (devices : DeviceList) (vendorId productId : UInt16) : DeviceList :=
  devices.filter fun e => e.matchesFilter vendorId productId

def fieldLine (field : String × String) : String := field.1 ++ " : " ++ field.2 ++ "\n"

def block (e : DeviceEntry) : String := String.join (e.fields.map fieldLine) ++ "\n"

def text (devices : DeviceList) : String := String.join (devices.map block)

end DeviceList

end HidAccess
