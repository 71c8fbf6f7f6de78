import HidAccess.Text.Numeral
import HidAccess.Text.Split

/-!
# Paths of USB interfaces

An interface is addressed by the numbers of its bus, its device and itself, in hexadecimal with colons
between them. The reader takes any number of digits in each part.
-/

namespace HidAccess

structure UsbPath where
  bus : UInt8
  address : UInt8
  interface : UInt8
  deriving DecidableEq, Repr

namespace UsbPath

def text (p : UsbPath) : String :=
  Text.Numeral.hex 4 p.bus.toNat ++ ":" ++ Text.Numeral.hex 4 p.address.toNat ++ ":"
    ++ Text.Numeral.hex 2 p.interface.toNat

def readPart? (cs : List Char) : Option UInt8 := (Text.Numeral.read? 16 255 cs).map UInt8.ofNat

def read? (s : String) : Option UsbPath :=
  match Text.splitAt ':' s.toList with
  | [bus, address, interface] => do
    return ⟨← readPart? bus, ← readPart? address, ← readPart? interface⟩
  | _ => none

end UsbPath

end HidAccess
