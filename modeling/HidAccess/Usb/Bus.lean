import HidAccess.SystemError
import HidAccess.Text.Utf16
import HidAccess.Usb.InputQueue
import HidAccess.Usb.Release

/-!
# A simulated USB bus

Devices as their descriptors state them, and the calls of a USB library on them: open and close, claim and
release interfaces, control and interrupt transfers. Every call is noted. A device can be made to refuse a
call, to fail its next transfers, and to vanish.

A handle on an interface with an input endpoint has a reader, which takes every report fed to the
endpoint at once.
-/

namespace HidAccess

structure UsbEndpoint where
  address : UInt8
  attributes : UInt8
  maxPacket : UInt16
  deriving DecidableEq, Repr

namespace UsbEndpoint

def isInput (e : UsbEndpoint) : Bool := e.address &&& 0x80 != 0
def isInterrupt (e : UsbEndpoint) : Bool := e.attributes &&& 0x03 == 3

end UsbEndpoint

structure UsbSetting where
  number : UInt8
  interfaceClass : UInt8
  endpoints : List UsbEndpoint := []
  deriving DecidableEq, Repr

inductive UsbString where
  | text (s : String)
  | raw (descriptor : Bytes)
  | fails (e : UsbError)
  deriving Repr

/-- An injected result of a transfer: an error, a number of bytes, or both. -/
structure UsbFailure where
  error : Option UsbError := none
  count : Option Nat := none
  deriving Repr

/-- A report fed to an input endpoint, perhaps with an error at its end. -/
structure UsbFed where
  endpoint : UInt8
  data : Bytes
  error : Option UsbError := none
  deriving Repr

structure UsbDevice where
  bus : UInt8
  address : UInt8
  deviceClass : UInt8
  vendorId : UInt16
  productId : UInt16
  bcdRelease : UInt16
  manufacturerIndex : UInt8 := 0
  productIndex : UInt8 := 0
  serialIndex : UInt8 := 0
  strings : List (UInt8 × UsbString) := []
  reports : List (UInt16 × Bytes) := []
  interfaces : List (List UsbSetting) := []
  descriptorError : Option UsbError := none
  configurationError : Option UsbError := none
  openError : Option UsbError := none
  claimError : Option UsbError := none
  releaseError : Option UsbError := none
  attached : Bool := true
  /-- Reports stored by SET_REPORT, by interface and value. -/
  stored : List ((UInt16 × UInt16) × Bytes) := []
  controlFailures : List UsbFailure := []
  outFailures : List UsbFailure := []
  fed : List UsbFed := []
  deriving Repr

structure UsbControl where
  requestType : UInt8
  request : UInt8
  value : UInt16
  index : UInt16
  deriving DecidableEq, Repr

inductive UsbCall where
  | opened (device : Nat)
  | closed (device : Nat)
  | autoDetach
  | claimed (interface : UInt8)
  | released (interface : UInt8)
  | controlIn (c : UsbControl) (length : Nat) (timeout : Duration)
  | controlOut (c : UsbControl) (data : Bytes) (timeout : Duration)
  | interruptOut (endpoint : UInt8) (data : Bytes) (timeout : Duration)
  deriving Repr

/-- An open device: which one, and the interfaces it holds. -/
structure UsbHandle where
  id : Nat
  device : Nat
  claims : List UInt8 := []
  deriving Repr

structure UsbReader where
  handle : Nat
  device : Nat
  endpoint : UInt8
  size : Nat
  queue : InputQueue := {}
  deriving Repr

structure UsbBus where
  devices : List UsbDevice := []
  listError : Option UsbError := none
  /-- Why no further reader can be started. -/
  readerError : Option SystemError := none
  handles : List UsbHandle := []
  readers : List UsbReader := []
  /-- How many handles were ever opened. -/
  opened : Nat := 0
  /-- The calls so far, newest first. -/
  calls : List UsbCall := []

abbrev UsbResult (α : Type) := Except UsbError α × UsbBus

namespace UsbDevice

def standardDeviceIn : UInt8 := 0x80
def standardInterfaceIn : UInt8 := 0x81
def classInterfaceIn : UInt8 := 0xA1
def classInterfaceOut : UInt8 := 0x21
def getDescriptor : UInt8 := 0x06
def getReport : UInt8 := 0x01
def setReport : UInt8 := 0x09
def stringDescriptor : UInt8 := 0x03
def reportDescriptor : UInt8 := 0x22

def typed (type number : UInt8) : UInt16 := (type.toUInt16 <<< 8) ||| number.toUInt16

def encodeText (s : String) : Bytes :=
  let units := Text.Utf16.encode s
  UInt8.ofNat (2 + 2 * units.length) :: stringDescriptor
    :: units.flatMap fun u => [UInt8.ofNat u, UInt8.ofNat (u / 256)]

def stringAt (d : UsbDevice) (index : UInt8) : Except UsbError Bytes :=
  match d.strings.lookup index with
  | some (.text s) => .ok (encodeText s)
  | some (.raw bytes) => .ok bytes
  | some (.fails e) => .error e
  | none => .error .pipe

def respond (d : UsbDevice) (c : UsbControl) : Except UsbError Bytes :=
  let type := (c.value >>> 8).toUInt8
  if c.requestType = standardDeviceIn ∧ c.request = getDescriptor ∧ type = stringDescriptor then
    d.stringAt c.value.toUInt8
  else
    let found :=
      if c.requestType = standardInterfaceIn ∧ c.request = getDescriptor ∧ type = reportDescriptor then
        d.reports.lookup c.index
      else if c.requestType = classInterfaceIn ∧ c.request = getReport then d.stored.lookup (c.index, c.value)
      else none
    match found with
    | some bytes => .ok bytes
    | none => .error .pipe

def store (interface value : UInt16) (data : Bytes) (d : UsbDevice) : UsbDevice :=
  { d with stored := ((interface, value), data) :: d.stored }

end UsbDevice

namespace UsbBus

def note (call : UsbCall) (bus : UsbBus) : UsbBus := { bus with calls := call :: bus.calls }

def takeCalls (bus : UsbBus) : List UsbCall × UsbBus := (bus.calls.reverse, { bus with calls := [] })

def change (index : Nat) (f : UsbDevice → UsbDevice) (bus : UsbBus) : UsbBus :=
  { bus with devices := bus.devices.modify index f }

def attached (bus : UsbBus) : Except UsbError (List (Nat × UsbDevice)) :=
  match bus.listError with
  | some e => .error e
  | none => .ok ((bus.devices.zipIdx.map fun (d, i) => (i, d)).filter fun (_, d) => d.attached)

def handle? (bus : UsbBus) (id : Nat) : Option UsbHandle := bus.handles.find? fun h => h.id == id

def deviceOf (bus : UsbBus) (id : Nat) : Except UsbError (Nat × UsbDevice) :=
  match bus.handle? id with
  | none => .error .noDevice
  | some h =>
    match bus.devices[h.device]? with
    | none => .error .noDevice
    | some d => if d.attached then .ok (h.device, d) else .error .noDevice

def openDevice (index : Nat) (bus : UsbBus) : UsbResult Nat :=
  let bus := bus.note (.opened index)
  match bus.devices[index]? with
  | none => (.error .noDevice, bus)
  | some d =>
    if !d.attached then (.error .noDevice, bus)
    else match d.openError with
      | some e => (.error e, bus)
      | none =>
        (.ok bus.opened,
          { bus with handles := bus.handles ++ [{ id := bus.opened, device := index }], opened := bus.opened + 1 })

/-- Asks for the kernel's driver to be detached whenever an interface is claimed. -/
def setAutoDetach (bus : UsbBus) : UsbBus := bus.note .autoDetach

def changeHandle (id : Nat) (f : UsbHandle → UsbHandle) (bus : UsbBus) : UsbBus :=
  { bus with handles := bus.handles.map fun h => if h.id == id then f h else h }

/-- Another handle on the same device holds the interface. -/
def isHeld (bus : UsbBus) (h : UsbHandle) (interface : UInt8) : Bool :=
  bus.handles.any fun other => other.id != h.id && other.device == h.device && other.claims.contains interface

def claimOutcome (bus : UsbBus) (h : UsbHandle) (interface : UInt8) : Option UsbError :=
  if bus.isHeld h interface then some .busy else bus.devices[h.device]?.bind (·.claimError)

def claim (id : Nat) (interface : UInt8) (bus : UsbBus) : UsbResult Unit :=
  let bus := bus.note (.claimed interface)
  match bus.handle? id with
  | none => (.error .noDevice, bus)
  | some h =>
    match bus.claimOutcome h interface with
    | some e => (.error e, bus)
    | none => (.ok (), bus.changeHandle id fun h => { h with claims := h.claims ++ [interface] })

/-- Gives an interface up; a refused release leaves it to the closing of the handle. -/
def release (id : Nat) (interface : UInt8) (bus : UsbBus) : UsbBus :=
  let bus := bus.note (.released interface)
  match bus.handle? id with
  | none => bus
  | some h =>
    match bus.devices[h.device]?.bind (·.releaseError) with
    | some _ => bus
    | none => bus.changeHandle id fun h => { h with claims := h.claims.filter (· != interface) }

/-- Closes a handle, with all that it still holds. -/
def close (id : Nat) (bus : UsbBus) : UsbBus :=
  match bus.handle? id with
  | none => bus
  | some h =>
    let bus := h.claims.foldl (fun bus interface => bus.release id interface) bus
    let bus := bus.note (.closed h.device)
    { bus with handles := bus.handles.filter fun h => h.id != id }

/-- The length field of a control transfer has 16 bits. -/
def lengthField (n : Nat) : Nat := n % 65536

def failureCount (f : UsbFailure) : Except UsbError Nat :=
  match f.count, f.error with
  | some n, _ => .ok n
  | none, some e => .error e
  | none, none => .ok 0

def controlIn (id : Nat) (c : UsbControl) (buffer : Bytes) (timeout : Duration) (bus : UsbBus) :
    UsbResult Received :=
  let length := lengthField buffer.length
  let bus := bus.note (.controlIn c length timeout)
  match bus.deviceOf id with
  | .error e => (.error e, bus)
  | .ok (index, d) =>
    match d.controlFailures with
    | f :: rest =>
      let bus := bus.change index fun d => { d with controlFailures := rest }
      ((failureCount f).map fun n => ⟨n, buffer⟩, bus)
    | [] => ((d.respond c).map fun bytes => .fill buffer (bytes.take length), bus)

def controlOut (id : Nat) (c : UsbControl) (data : Bytes) (timeout : Duration) (bus : UsbBus) :
    UsbResult Nat :=
  let sent := data.take (lengthField data.length)
  let bus := bus.note (.controlOut c sent timeout)
  match bus.deviceOf id with
  | .error e => (.error e, bus)
  | .ok (index, d) =>
    match d.controlFailures with
    | f :: rest => (failureCount f, bus.change index fun d => { d with controlFailures := rest })
    | [] => (.ok sent.length, bus.change index (UsbDevice.store c.index c.value sent))

/-- The end of an interrupt transfer: an interruption after some bytes counts as success. -/
def transferred (error : Option UsbError) (count : Nat) : Except UsbError Nat :=
  match error with
  | none => .ok count
  | some .interrupted => if 0 < count then .ok count else .error .interrupted
  | some e => .error e

def interruptOut (id : Nat) (endpoint : UInt8) (data : Bytes) (timeout : Duration) (bus : UsbBus) :
    UsbResult Nat :=
  let bus := bus.note (.interruptOut endpoint data timeout)
  match bus.deviceOf id with
  | .error e => (.error e, bus)
  | .ok (index, d) =>
    match d.outFailures with
    | f :: rest =>
      let count := f.count.getD (if f.error.isSome then 0 else data.length)
      (transferred f.error count, bus.change index fun d => { d with outFailures := rest })
    | [] => (.ok data.length, bus)

/-- How one transfer of a reader ends that takes a fed report. -/
def received (size : Nat) (item : UsbFed) : Except UsbError Bytes :=
  if size < item.data.length then .error .overflow
  else (transferred item.error item.data.length).map fun _ => item.data

/-- Completes a reader's transfers with the reports fed to its endpoint, as long as it goes on; gives back
the other fed reports. -/
def drain (r : UsbReader) : List UsbFed → UsbReader × List UsbFed
  | [] => (r, [])
  | item :: rest =>
    if item.endpoint == r.endpoint && !r.queue.disconnected then
      drain { r with queue := r.queue.complete (received r.size item) } rest
    else
      let (r, others) := drain r rest
      (r, item :: others)

/-- Lets one reader take what is there for it; on a device that is gone it then ends. -/
def settleReader (r : UsbReader) (bus : UsbBus) : UsbReader × UsbBus :=
  match bus.devices[r.device]? with
  | none => (r, bus)
  | some d =>
    let (r, fed) := drain r d.fed
    let r := if d.attached then r else { r with queue := r.queue.complete (.error .noDevice) }
    (r, bus.change r.device fun d => { d with fed })

def settleReaders : List UsbReader → UsbBus → List UsbReader × UsbBus
  | [], bus => ([], bus)
  | r :: rest, bus =>
    let (r, bus) := settleReader r bus
    let (rest, bus) := settleReaders rest bus
    (r :: rest, bus)

def settle (bus : UsbBus) : UsbBus :=
  let (readers, bus) := settleReaders bus.readers bus
  { bus with readers }

def startReader (handle device : Nat) (e : UsbEndpoint) (bus : UsbBus) :
    Except SystemError Unit × UsbBus :=
  match bus.readerError with
  | some error => (.error error, bus)
  | none =>
    (.ok (), settle { bus with
      readers := bus.readers ++ [{ handle, device, endpoint := e.address, size := max e.maxPacket.toNat 1 }] })

def stopReader (handle : Nat) (bus : UsbBus) : UsbBus :=
  { bus with readers := bus.readers.filter fun r => r.handle != handle }

def reader? (bus : UsbBus) (handle : Nat) : Option UsbReader := bus.readers.find? fun r => r.handle == handle

def setQueue (handle : Nat) (queue : InputQueue) (bus : UsbBus) : UsbBus :=
  { bus with readers := bus.readers.map fun r => if r.handle == handle then { r with queue } else r }

end UsbBus

end HidAccess
