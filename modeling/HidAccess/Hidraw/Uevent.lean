import HidAccess.Text.Blank
import HidAccess.Text.Numeral
import HidAccess.Text.Split

/-!
# The kernel's event file of a HID device

Lines of a key, an equals sign and a value. The id line holds bus, vendor and product in hexadecimal with
colons between them, each below 2^32, of which the low 16 bits count. Without such a line, or with one
that is malformed, the text describes no device. Of several lines with one key the last counts.
-/

namespace HidAccess

structure Uevent where
  bus : UInt16
  vendorId : UInt16
  productId : UInt16
  name : Option String := none
  uniq : Option String := none
  deriving DecidableEq, Repr

namespace Uevent

def idKey : String := "HID_ID"
def nameKey : String := "HID_NAME"
def uniqKey : String := "HID_UNIQ"

def entry? (line : List Char) : Option (String × List Char) :=
  (Text.splitFirst? '=' line).map fun (key, value) => (String.ofList key, value)

def entries (text : String) : List (String × List Char) := (Text.lines text.toList).filterMap entry?

def valuesOf (key : String) (es : List (String × List Char)) : List (List Char) :=
  (es.filter fun e => e.1 == key).map (·.2)

def group? (cs : List Char) : Option UInt16 := (Text.Numeral.read? 16 Text.Numeral.max32 cs).map UInt16.ofNat

/-- Bus, vendor and product; what follows a further colon does not count. -/
def ids? (value : List Char) : Option (UInt16 × UInt16 × UInt16) :=
  match Text.splitAt ':' value with
  | bus :: vendor :: product :: _ => do return (← group? bus, ← group? vendor, ← group? product)
  | _ => none

def lastText (key : String) (es : List (String × List Char)) : Option String :=
  (valuesOf key es).getLast?.bind fun value => Text.nonBlank? (String.ofList value)

def read? (text : String) : Option Uevent := do
  let es := entries text
  let ids ← (valuesOf idKey es).mapM ids?
  let (bus, vendorId, productId) ← ids.getLast?
  return { bus, vendorId, productId, name := lastText nameKey es, uniq := lastText uniqKey es }

end Uevent

end HidAccess
