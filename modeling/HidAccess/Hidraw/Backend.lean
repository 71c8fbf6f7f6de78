import HidAccess.FileTree.Fixture
import HidAccess.Hidraw.Attributes
import HidAccess.ReportDescriptor.Usage
import HidAccess.Session

/-!
# The kernel's device nodes

Every entry of the class directory whose name starts with `hidraw` leads to a HID device; its node has the
same name in the directory of device nodes. Entries without readable data are left out. Reports go through
the node by plain reads and writes.
-/

namespace HidAccess

structure HidrawPaths where
  classes : String := "/sys/class/hidraw"
  nodes : String := "/dev"
  deriving Repr

structure HidrawNode where
  file : Nat
  texts : DeviceTexts
  deriving Repr

namespace HidrawPaths

def nodeStart : String := "hidraw"

/-- The number in a node's name; names without one come last. -/
def nodeIndex (name : String) : Nat :=
  (Text.Numeral.read? 10 Text.Numeral.max32 (Text.dropStarts nodeStart.toList name.toList)).getD Text.Numeral.max32

def deviceOf? (p : HidrawPaths) (t : FileTree) (node : String) : Option (Place × Uevent) := do
  let place ← (t.resolve (FileTree.join (FileTree.join p.classes node) "device") true).toOption
  let e ← (t.readTextFrom? place "uevent").bind Uevent.read?
  return (place, e)

def entryOf (path : String) (e : Uevent) (usage : Option (UInt16 × UInt16)) (a : Attributes) :
    DeviceEntry where
  path
  vendorId := e.vendorId
  productId := e.productId
  serialNumber := a.texts.serial
  releaseNumber := a.release.getD 0
  manufacturer := a.texts.manufacturer
  product := a.texts.product
  usagePage := usage.map (·.1)
  usage := usage.map (·.2)
  interfaceNumber := (a.interface.map fun n => Int32.ofInt n.toNat).getD (-1)
  bus := Bus.ofLinux e.bus

def describe? (p : HidrawPaths) (t : FileTree) (node : String) : Option DeviceEntry :=
  (p.deviceOf? t node).map fun (place, e) =>
    let descriptor := (t.readFrom place "report_descriptor").toOption
    entryOf (FileTree.join p.nodes node) e (descriptor.bind ReportDescriptor.topLevelUsage)
      (Attributes.lookUp t place e)

def isNode (name : String) : Bool := (Text.dropStart? nodeStart.toList name.toList).isSome

def sortNodes (names : List String) : List String :=
  (names.filter isNode).mergeSort fun a b => decide (nodeIndex a ≤ nodeIndex b)

def enumerate (p : HidrawPaths) (t : FileTree) : Except AccessError DeviceList :=
  match t.list p.classes with
  | .ok names => .ok ((sortNodes (names.map FileName.shown)).filterMap (p.describe? t))
  | .error e => if e.isNotFound then .ok [] else .error (.enumeration (p.classes ++ ": " ++ e.shown))

def fileName? (path : String) : Option String :=
  match ((FileTree.components path).filter fun c => c != "" && c != ".").getLast? with
  | some name => if name == ".." then none else some name
  | none => none

def textsFor (p : HidrawPaths) (t : FileTree) (path : String) : DeviceTexts :=
  match (fileName? path).bind (p.deviceOf? t) with
  | some (place, e) => (Attributes.lookUp t place e).texts
  | none => {}

def openPath (p : HidrawPaths) (path : String) (t : FileTree) : Outcome FileTree HidrawNode :=
  match t.openFile path with
  | (.error e, t) => (.error (e.whileOpening path), t)
  | (.ok file, t) => (.ok { file, texts := p.textsFor t path }, t)

/-- The wait of a poll, in whole milliseconds; no wait but an empty one is empty. -/
def pollWait (patience : Duration) : Duration :=
  if patience.asMillis = 0 ∧ patience ≠ 0 then Duration.millis 1
  else Duration.millis (min patience.asMillis 65535)

/-- How long a read at the end of a file takes at most. -/
def moment : Duration := Duration.micros 100

/-- Nothing comes from a pipe until somebody writes to it; the end of a file is seen at once. -/
def emptyWait (n : HidrawNode) (patience : Duration) (t : FileTree) : Duration :=
  if t.isPipe n.file then pollWait patience else min patience moment

def readNode (n : HidrawNode) (buffer : Bytes) (patience : Duration) (t : FileTree) :
    Outcome FileTree Arrival :=
  match t.readSome n.file buffer.length with
  | ([], t) => (.ok (.nothing (emptyWait n patience t)), t)
  | (report, t) => (.ok (.now (.fill buffer report)), t)

def writeNode (n : HidrawNode) (report : Bytes) (t : FileTree) : Outcome FileTree Nat :=
  let (r, t) := t.writeSome n.file report
  (r.mapError SystemError.whileTransferring, t)

def noFeatures : AccessError := (SystemError.call SystemError.notTerminal).whileTransferring

def textOf (n : HidrawNode) : StringQuery → Except AccessError (Option String)
  | .indexed _ => .error DeviceCalls.noIndexedText
  | query => .ok (n.texts.get query)

def backend (p : HidrawPaths) : Backend FileTree HidrawNode Arrival where
  kind := .hidraw
  read := readNode
  write := writeNode
  sendFeature _ _ t := (.error noFeatures, t)
  getFeature _ _ t := (.error noFeatures, t)
  text n query t := (textOf n query, t)
  outputLimit _ t := (none, t)
  release n := FileTree.closeFile n.file
  enumerate t := (p.enumerate t, t)
  openPath := p.openPath

def bench (p : HidrawPaths) (root : String) : Bench FileTree HidrawNode FileRequest FileReply where
  backend := p.backend
  act := FileTree.control root

end HidrawPaths

end HidAccess
