import HidAccess.Device

/-!
# The strings of a device

The three strings by which a device names itself, each of which may be missing.
-/

namespace HidAccess

structure DeviceTexts where
  manufacturer : Option String := none
  product : Option String := none
  serial : Option String := none
  deriving DecidableEq, Repr, Inhabited

def DeviceTexts.get (t : DeviceTexts) : StringQuery → Option String
  | .manufacturer => t.manufacturer
  | .product => t.product
  | .serial => t.serial
  | .indexed _ => none

end HidAccess
