import HidAccess.DeviceEntry
import HidAccess.DeviceTexts
import HidAccess.FileTree
import HidAccess.Hidraw.Uevent

/-!
# Attributes of a HID device in the device tree

A HID device's own directory has its event file. A USB device says more about itself further up: the
nearest directory around it with an interface number is its interface, and the nearest one with a vendor
id is the USB device. Strings of the USB device win over those of the event file. Directories further out
are other devices.
-/

namespace HidAccess

structure Attributes where
  texts : DeviceTexts
  release : Option UInt16 := none
  interface : Option UInt16 := none
  deriving DecidableEq, Repr, Inhabited

namespace Attributes

def interfaceFile : String := "bInterfaceNumber"
def vendorFile : String := "idVendor"

def text? (t : FileTree) (place : Place) (name : String) : Option String :=
  (t.readTextFrom? place name).bind Text.nonBlank?

def hex? (t : FileTree) (place : Place) (name : String) : Option UInt16 :=
  (text? t place name).bind fun s => (Text.Numeral.read? 16 65535 s.toList).map UInt16.ofNat

def around : Place → List Place
  | [] => []
  | _ :: rest => rest :: around rest

def nearest? (t : FileTree) (name : String) (place : Place) : Option Place :=
  (around place).find? fun p => t.isFileFrom p name

def ofUevent (e : Uevent) : Attributes where
  texts := { product := e.name, serial := e.uniq }

def ofUsb (t : FileTree) (place : Place) (e : Uevent) : Attributes :=
  let interface := (nearest? t interfaceFile place).bind fun p => hex? t p interfaceFile
  match nearest? t vendorFile place with
  | none => { ofUevent e with interface }
  | some p =>
    { texts :=
        { manufacturer := text? t p "manufacturer"
          product := text? t p "product" <|> e.name
          serial := text? t p "serial" <|> e.uniq }
      release := hex? t p "bcdDevice"
      interface }

def lookUp (t : FileTree) (place : Place) (e : Uevent) : Attributes :=
  if Bus.ofLinux e.bus = .usb then ofUsb t place e else ofUevent e

end Attributes

end HidAccess
