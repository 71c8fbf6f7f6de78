import HidAccess.Text.Blank
import HidAccess.Text.Numeral
import HidAccess.Text.Split

/-!
# Device ids as texts

A vendor or product id is a 16-bit number. Between blanks it is written in hexadecimal after `0x` or
`0X`, else in decimal.
-/

namespace HidAccess.DeviceId

def limit : Nat := 65535

def readTrimmed? (cs : List Char) : Option Nat :=
  match Text.dropStart? ['0', 'x'] cs <|> Text.dropStart? ['0', 'X'] cs with
  | some digits => Text.Numeral.read? 16 limit digits
  | none => Text.Numeral.read? 10 limit cs

def read? (s : String) : Option UInt16 := (readTrimmed? (Text.trim s.toList)).map UInt16.ofNat

def readError (s : String) : String :=
  "`" ++ String.ofList (Text.trim s.toList) ++ "` is not a 16-bit id (use 0x046d or 1133)"

end HidAccess.DeviceId
