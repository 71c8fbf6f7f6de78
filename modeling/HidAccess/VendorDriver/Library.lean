import HidAccess.Device
import HidAccess.Text.Utf8
import HidAccess.Text.Wide

/-!
# A simulated driver library

The calls of a vendor's HID library: it lists devices, opens one by path, and moves reports. A path that
can be opened has a script, which all handles on it share; every device call takes the next entry. Texts
are wide characters, and may be none or no text at all. Every call is noted.
-/

namespace HidAccess

/-- A text from the library: absent, or wide characters. -/
abbrev VendorText := Option (List Int)

structure VendorEntry where
  path : Bytes
  vendorId : UInt16
  productId : UInt16
  serial : VendorText := none
  manufacturer : VendorText := none
  product : VendorText := none
  release : UInt16 := 0
  usagePage : UInt16 := 0
  usage : UInt16 := 0
  interfaceNumber : Int32 := -1
  busCode : Nat := 0
  deriving Repr

inductive VendorAnswer where
  | fails (text : VendorText)
  /-- The data and the text that a call may ask for, and its result where it is not a count of bytes. -/
  | gives (data : Bytes) (text : List Int) (result : Option Nat)
  deriving Repr

inductive VendorNode where
  | refuses (text : VendorText)
  | script (answers : List VendorAnswer)
  deriving Repr

inductive VendorCall where
  | enumerated
  | opened (path : String)
  | closed (path : String)
  | read (length : Nat) (patience : Duration)
  | write (report : Bytes)
  | sendFeature (report : Bytes)
  | getFeature (buffer : Bytes)
  | text (query : StringQuery)
  deriving Repr

structure VendorLibrary where
  /-- What the library finds when it looks. -/
  present : List VendorEntry := []
  nodes : List (String × VendorNode) := []
  /-- What it found when it last looked. -/
  listed : List VendorEntry := []
  /-- The calls so far, newest first. -/
  calls : List VendorCall := []

namespace VendorLibrary

def note (call : VendorCall) (l : VendorLibrary) : VendorLibrary := { l with calls := call :: l.calls }

def takeCalls (l : VendorLibrary) : List VendorCall × VendorLibrary := (l.calls.reverse, { l with calls := [] })

def refresh (l : VendorLibrary) : VendorLibrary := { l.note .enumerated with listed := l.present }

def noSuchDevice : VendorText := some (Text.Wide.encode "no such device")
def scriptExhausted : VendorText := some (Text.Wide.encode "script exhausted")

def openNode (path : String) (l : VendorLibrary) : Except VendorText Unit × VendorLibrary :=
  let l := l.note (.opened path)
  match l.nodes.lookup path with
  | some (.script _) => (.ok (), l)
  | some (.refuses text) => (.error text, l)
  | none => (.error noSuchDevice, l)

def setScript (path : String) (answers : List VendorAnswer) (l : VendorLibrary) : VendorLibrary :=
  { l with nodes := l.nodes.map fun (p, node) => if p == path then (p, .script answers) else (p, node) }

def ask (path : String) (call : VendorCall) (l : VendorLibrary) :
    Except VendorText (Bytes × List Int × Option Nat) × VendorLibrary :=
  let l := l.note call
  match l.nodes.lookup path with
  | some (.script (.gives data text result :: rest)) => (.ok (data, text, result), l.setScript path rest)
  | some (.script (.fails text :: rest)) => (.error text, l.setScript path rest)
  | _ => (.error scriptExhausted, l)

end VendorLibrary

end HidAccess
