import HidAccess.Clocked

/-!
# The virtual bus

A bus of devices in memory. The user of the bus attaches devices, feeds input reports, stages feature
reports, looks at what was written and unplugs; the backend on it behaves as on real devices. Devices are
numbered in the order of their attachment, and the number makes the path: it is never given twice.
-/

namespace HidAccess

structure VirtualSpec where
  vendorId : UInt16
  productId : UInt16
  serialNumber : Option String := none
  manufacturer : Option String := none
  product : Option String := none
  releaseNumber : UInt16 := 0x0100
  usagePage : Option UInt16 := none
  usage : Option UInt16 := none
  interfaceNumber : Int32 := 0
  /-- The fixed size of output reports, the id byte included. -/
  outputLimit : Option Nat := none
  /-- At most one handle at a time. -/
  exclusive : Bool := false
  /-- No handle at all. -/
  denied : Bool := false
  /-- Texts by index; of several for one index the last counts. -/
  indexedTexts : List (UInt8 × String) := []
  deriving Repr

structure VirtualDevice where
  path : String
  spec : VirtualSpec
  attached : Bool := true
  openHandles : Nat := 0
  /-- The fed reports that no read has taken, oldest first. -/
  input : List Bytes := []
  /-- The written reports, newest first. -/
  output : List Bytes := []
  /-- Feature reports by id, the newest of an id in front. -/
  features : List (UInt8 × Bytes) := []
  deriving Repr

namespace VirtualDevice

def entry (d : VirtualDevice) : DeviceEntry where
  path := d.path
  vendorId := d.spec.vendorId
  productId := d.spec.productId
  serialNumber := d.spec.serialNumber
  releaseNumber := d.spec.releaseNumber
  manufacturer := d.spec.manufacturer
  product := d.spec.product
  usagePage := d.spec.usagePage
  usage := d.spec.usage
  interfaceNumber := d.spec.interfaceNumber
  bus := .virtual

def unplugged (d : VirtualDevice) : AccessError := .transfer (d.path ++ " was unplugged") true

def written (d : VirtualDevice) : List Bytes := d.output.reverse

def feature? (d : VirtualDevice) (id : UInt8) : Option Bytes := d.features.lookup id

def unplug (d : VirtualDevice) : VirtualDevice := { d with attached := false }

def feed (report : Bytes) (d : VirtualDevice) : VirtualDevice := { d with input := d.input ++ [report] }

def storeFeature (id : UInt8) (report : Bytes) (d : VirtualDevice) : VirtualDevice :=
  { d with features := (id, report) :: d.features.filter fun f => f.1 != id }

def reportId (report : Bytes) : UInt8 := report.headD 0

def noFeature (id : UInt8) : AccessError :=
  .transfer ("no feature report 0x" ++ Text.Numeral.hex 2 id.toNat) false

def opened (d : VirtualDevice) : Except AccessError VirtualDevice :=
  if d.spec.denied then .error (.accessDenied d.path)
  else if d.spec.exclusive && d.openHandles != 0 then .error (.alreadyOpen d.path)
  else .ok { d with openHandles := d.openHandles + 1 }

def take (buffer : Bytes) (patience : Duration) (d : VirtualDevice) : Except AccessError Arrival × VirtualDevice :=
  match d.input with
  | report :: rest => (.ok (.now (.fill buffer report)), { d with input := rest })
  | [] => (.ok (.nothing patience), d)

def accept (report : Bytes) (d : VirtualDevice) : Except AccessError Nat × VirtualDevice :=
  (.ok report.length, { d with output := report :: d.output })

def acceptFeature (report : Bytes) (d : VirtualDevice) : Except AccessError Nat × VirtualDevice :=
  (.ok report.length, d.storeFeature (reportId report) report)

def fetchFeature (buffer : Bytes) (d : VirtualDevice) : Except AccessError Received × VirtualDevice :=
  match d.feature? (reportId buffer) with
  | some report => (.ok (.fill buffer report), d)
  | none => (.error (noFeature (reportId buffer)), d)

def textOf (d : VirtualDevice) : StringQuery → Option String
  | .manufacturer => d.spec.manufacturer
  | .product => d.spec.product
  | .serial => d.spec.serialNumber
  | .indexed i => d.spec.indexedTexts.reverse.lookup i

end VirtualDevice

structure VirtualBus where
  devices : List VirtualDevice := []
  unavailable : Bool := false
  deriving Repr

namespace VirtualBus

def pathOf (index : Nat) : String := "virtual:" ++ toString index

def attach (spec : VirtualSpec) (bus : VirtualBus) : VirtualBus :=
  { bus with devices := bus.devices ++ [{ path := pathOf bus.devices.length, spec }] }

def change (index : Nat) (f : VirtualDevice → VirtualDevice) (bus : VirtualBus) : VirtualBus :=
  { bus with devices := bus.devices.modify index f }

def enumerate (bus : VirtualBus) : Except AccessError DeviceList :=
  if bus.unavailable then .error (.enumeration "virtual bus is unavailable")
  else .ok ((bus.devices.filter (·.attached)).map VirtualDevice.entry)

def find? (path : String) (bus : VirtualBus) : Option Nat :=
  bus.devices.findIdx? fun d => d.path == path && d.attached

def openPath (path : String) (bus : VirtualBus) : Outcome VirtualBus Nat :=
  match bus.find? path with
  | none => (.error (.deviceNotFound path), bus)
  | some index =>
    match bus.devices[index]? with
    | none => (.error (.deviceNotFound path), bus)
    | some d =>
      match d.opened with
      | .error e => (.error e, bus)
      | .ok d => (.ok index, bus.change index fun _ => d)

def withAttached (call : VirtualDevice → Except AccessError α × VirtualDevice) (index : Nat)
    (bus : VirtualBus) : Outcome VirtualBus α :=
  match bus.devices[index]? with
  | none => (.error .handleClosed, bus)
  | some d =>
    if d.attached then
      let (r, d) := call d
      (r, bus.change index fun _ => d)
    else (.error d.unplugged, bus)

/-- The backend on the bus; an open device is its number. -/
def backend : Backend VirtualBus Nat Arrival where
  kind := .virtual
  read index buffer patience := withAttached (VirtualDevice.take buffer patience) index
  write index report := withAttached (VirtualDevice.accept report) index
  sendFeature index report := withAttached (VirtualDevice.acceptFeature report) index
  getFeature index buffer := withAttached (VirtualDevice.fetchFeature buffer) index
  text index query := withAttached (fun d => (.ok (d.textOf query), d)) index
  outputLimit index bus := (bus.devices[index]?.bind (·.spec.outputLimit), bus)
  release index := change index fun d => { d with openHandles := d.openHandles - 1 }
  enumerate bus := (bus.enumerate, bus)
  openPath := openPath

end VirtualBus

end HidAccess
