import HidAccess.Text.Numeral

/-!
# Device entries

An entry describes one device that enumeration found: where to open it, what it says about itself, and
the usage of its first top-level collection. Strings and usages that the backend could not read are
absent; an interface number of -1 stands for a device without interfaces.
-/

namespace HidAccess

inductive Bus where
  | usb
  | bluetooth
  | i2c
  | spi
  | virtual
  | unknown
  deriving DecidableEq, Repr, Inhabited

namespace Bus

def all : List Bus := [.usb, .bluetooth, .i2c, .spi, .virtual, .unknown]

def ofLinux (code : UInt16) : Bus :=
  if code = 0x03 then .usb
  else if code = 0x05 then .bluetooth
  else if code = 0x18 then .i2c
  else if code = 0x1C then .spi
  else if code = 0x06 then .virtual
  else .unknown

def name : Bus → String
  | .usb => "usb"
  | .bluetooth => "bluetooth"
  | .i2c => "i2c"
  | .spi => "spi"
  | .virtual => "virtual"
  | .unknown => "unknown"

def shown : Bus → String
  | .usb => "Usb"
  | .bluetooth => "Bluetooth"
  | .i2c => "I2c"
  | .spi => "Spi"
  | .virtual => "Virtual"
  | .unknown => "Unknown"

def ofName? (s : String) : Option Bus := all.find? fun b => b.name == s

theorem ofName?_name (b : Bus) : ofName? b.name = some b := by cases b <;> decide

end Bus

structure DeviceEntry where
  path : String
  vendorId : UInt16
  productId : UInt16
  serialNumber : Option String := none
  /-- The device's release in binary-coded decimal, 0 when unknown. -/
  releaseNumber : UInt16 := 0
  manufacturer : Option String := none
  product : Option String := none
  usagePage : Option UInt16 := none
  usage : Option UInt16 := none
  interfaceNumber : Int32 := -1
  bus : Bus := .unknown
  deriving DecidableEq, Repr, Inhabited

namespace DeviceEntry

def idDigits (n : UInt16) : String := Text.Numeral.hex 4 n.toNat

def idText (n : UInt16) : String := "0x" ++ idDigits n

/-- A filter id of 0 matches every device. -/
def matchesFilter (e : DeviceEntry) (vendorId productId : UInt16) : Bool :=
  (vendorId == 0 || e.vendorId == vendorId) && (productId == 0 || e.productId == productId)

def fields (e : DeviceEntry) : List (String × String) :=
  [("bus", e.bus.name),
   ("interface_number", toString e.interfaceNumber),
   ("manufacturer_string", e.manufacturer.getD ""),
   ("path", e.path),
   ("product_id", idText e.productId),
   ("product_string", e.product.getD ""),
   ("release_number", idText e.releaseNumber),
   ("serial_number", e.serialNumber.getD ""),
   ("usage", (e.usage.map idText).getD ""),
   ("usage_page", (e.usagePage.map idText).getD ""),
   ("vendor_id", idText e.vendorId)]

def idPair (vendorId productId : UInt16) : String :=
  idDigits vendorId ++ ":" ++ idDigits productId

def summary (e : DeviceEntry) : String :=
  idPair e.vendorId e.productId ++ " " ++ e.product.getD "Unknown" ++ " (" ++ e.path ++ ")"

end DeviceEntry

end HidAccess
