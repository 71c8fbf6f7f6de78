import HidAccess.Session
import HidAccess.VendorDriver.Library

/-!
# The backend on a driver library

The library does the work; this backend maps entries and errors. The library's listing is the one of its
last look, and a path that it lists and cannot open is not an absent one. A text that the library gives is
absent in an entry when it is empty or no text, and absent from a handle only when it is no text.
-/

namespace HidAccess

namespace VendorEntry

def nonEmptyText (t : VendorText) : Option String :=
  (t.bind Text.Wide.decode?).filter fun s => !s.isEmpty

def busOf (code : Nat) : Bus :=
  match code with
  | 1 => .usb
  | 2 => .bluetooth
  | 3 => .i2c
  | 4 => .spi
  | _ => .unknown

def pathBytes (e : VendorEntry) : Bytes := e.path.takeWhile (· != 0)

def usages (e : VendorEntry) : Option (UInt16 × UInt16) :=
  if e.usagePage = 0 ∧ e.usage = 0 then none else some (e.usagePage, e.usage)

def toEntry (e : VendorEntry) : DeviceEntry where
  path := Text.Utf8.decodeLossy e.pathBytes
  vendorId := e.vendorId
  productId := e.productId
  serialNumber := nonEmptyText e.serial
  releaseNumber := e.release
  manufacturer := nonEmptyText e.manufacturer
  product := nonEmptyText e.product
  usagePage := e.usages.map (·.1)
  usage := e.usages.map (·.2)
  interfaceNumber := e.interfaceNumber
  bus := busOf e.busCode

end VendorEntry

namespace VendorLibrary

def failureMessage (t : VendorText) : String :=
  "hidapi error: " ++ (t.bind Text.Wide.decode?).getD "(could not get error message)"

def occursIn (pattern : List Char) : List Char → Bool
  | [] => pattern.isEmpty
  | c :: cs => pattern.isPrefixOf (c :: cs) || occursIn pattern cs

def isDenial (message : String) : Bool :=
  ["Permission denied", "EPERM", "EACCES"].any fun word => occursIn word.toList message.toList

def toAccess (message : String) : AccessError :=
  if isDenial message then .accessDenied message else .transfer message false

def failure (t : VendorText) : AccessError := toAccess (failureMessage t)

def isListed (l : VendorLibrary) (path : String) : Bool :=
  l.listed.any fun e => e.pathBytes == Text.Utf8.encode path

def enumerate (l : VendorLibrary) : Outcome VendorLibrary DeviceList :=
  let l := l.refresh
  (.ok (l.listed.map VendorEntry.toEntry), l)

/-- What a failed open means: a path that is not listed may fail for being absent. -/
def openFailure (l : VendorLibrary) (path : String) (t : VendorText) : AccessError :=
  match failure t with
  | .transfer text gone => if l.isListed path then .transfer text gone else .deviceNotFound path
  | e => e

def zeroInPath (path : String) : AccessError :=
  .validation ("path contains a NUL byte: " ++ Text.quoted path)

def openPath (path : String) (l : VendorLibrary) : Outcome VendorLibrary String :=
  if path.toList.contains '\x00' then (.error (zeroInPath path), l)
  else match l.openNode path with
    | (.ok (), l) => (.ok path, l)
    | (.error t, l) => (.error (l.openFailure path t), l)

def call (path : String) (c : VendorCall) (use : Bytes → List Int → Option Nat → Except AccessError α)
    (l : VendorLibrary) : Outcome VendorLibrary α :=
  match l.ask path c with
  | (.ok (data, text, result), l) => (use data text result, l)
  | (.error t, l) => (.error (failure t), l)

def received (buffer data : Bytes) (result : Option Nat) : Received :=
  let filled := Received.fill buffer data
  { filled with count := result.getD filled.count }

/-- The most wide characters of a string query. -/
def maxText : Nat := 127

def incomplete (sent all : Nat) : AccessError :=
  toAccess ("Failed to send all data: only sent " ++ toString sent ++ " out of " ++ toString all ++ " bytes")

/-- A feature report goes out as a whole or not at all. -/
def sentFeature (report : Bytes) (result : Option Nat) : Except AccessError Nat :=
  let sent := result.getD report.length
  if sent = report.length then .ok sent else .error (incomplete sent report.length)

def backend : Backend VendorLibrary String Arrival where
  kind := .hidapi
  read path buffer patience :=
    call path (.read buffer.length patience) fun data _ result => .ok (.now (received buffer data result))
  write path report := call path (.write report) fun _ _ result => .ok (result.getD report.length)
  sendFeature path report := call path (.sendFeature report) fun _ _ result => sentFeature report result
  getFeature path buffer :=
    call path (.getFeature buffer) fun data _ result => .ok (received buffer data result)
  text path query := call path (.text query) fun _ text _ => .ok (Text.Wide.decode? (text.take maxText))
  outputLimit _ library := (none, library)
  release path := note (.closed path)
  enumerate := enumerate
  openPath := openPath

end VendorLibrary

inductive VendorRequest where
  | calls
  /-- Other devices are there from now on. -/
  | replace (present : List VendorEntry)

inductive VendorReply where
  | done
  | calls (cs : List VendorCall)

namespace VendorLibrary

def control : VendorRequest → VendorLibrary → VendorReply × VendorLibrary
  | .calls, l => let (cs, l) := l.takeCalls; (.calls cs, l)
  | .replace present, l => (.done, { l with present })

def bench : Bench VendorLibrary String VendorRequest VendorReply where
  backend := backend
  act := control

end VendorLibrary

end HidAccess
