import HidAccess.ReportDescriptor.Usage
import HidAccess.Session
import HidAccess.Usb.Path
import HidAccess.Usb.Report
import HidAccess.Usb.Texts

/-!
# The USB backend

Every interface of class HID is one entry, by its first alternate setting. An open interface is claimed;
input reports come from its reader, output reports go through the first interrupt OUT endpoint or, where
there is none, through SET_REPORT, and feature reports through control transfers.
-/

namespace HidAccess

structure UsbPipes where
  input : Option UsbEndpoint := none
  output : Option UsbEndpoint := none
  deriving Repr

structure UsbLink where
  handle : Nat
  interface : UInt8
  pipes : UsbPipes
  texts : DeviceTexts
  deriving Repr

namespace UsbSetting

def hidClass : UInt8 := 3

def pipes (s : UsbSetting) : UsbPipes where
  input := s.endpoints.find? fun e => e.isInterrupt && e.isInput
  output := s.endpoints.find? fun e => e.isInterrupt && !e.isInput

end UsbSetting

namespace UsbDevice

def hidInterfaces (d : UsbDevice) : List (UInt8 × UsbPipes) :=
  match d.configurationError with
  | some _ => []
  | none =>
    (d.interfaces.filterMap List.head?).filterMap fun s =>
      if s.interfaceClass == UsbSetting.hidClass then some (s.number, s.pipes) else none

/-- Devices with a class of their own have no HID interfaces to list. -/
def isListed (d : UsbDevice) : Bool := d.descriptorError.isNone && d.deviceClass == 0

def pathOf (d : UsbDevice) (interface : UInt8) : UsbPath := ⟨d.bus, d.address, interface⟩

end UsbDevice

namespace UsbBus

def descriptorSize : Nat := 4096
def transferTimeout : Duration := Duration.millis 1000
def outputReport : UInt8 := 2
def featureReport : UInt8 := 3

def readUsage (id : Nat) (interface : UInt8) (bus : UsbBus) : Option (UInt16 × UInt16) × UsbBus :=
  let c : UsbControl :=
    { requestType := UsbDevice.standardInterfaceIn, request := UsbDevice.getDescriptor,
      value := UsbDevice.typed UsbDevice.reportDescriptor 0, index := interface.toUInt16 }
  match bus.controlIn id c (List.replicate descriptorSize 0) stringTimeout with
  | (.ok r, bus) => (ReportDescriptor.topLevelUsage r.report, bus)
  | (.error _, bus) => (none, bus)

def entryOf (d : UsbDevice) (interface : UInt8) (texts : DeviceTexts) (usage : Option (UInt16 × UInt16)) :
    DeviceEntry where
  path := (d.pathOf interface).text
  vendorId := d.vendorId
  productId := d.productId
  serialNumber := texts.serial
  releaseNumber := (UsbRelease.ofBcd d.bcdRelease).toBcd
  manufacturer := texts.manufacturer
  product := texts.product
  usagePage := usage.map (·.1)
  usage := usage.map (·.2)
  interfaceNumber := Int32.ofInt interface.toNat
  bus := .usb

/-- The entries of a device's interfaces, with what its handle can tell if it was opened. -/
def entriesOf (d : UsbDevice) (id : Option Nat) (texts : DeviceTexts) :
    List (UInt8 × UsbPipes) → UsbBus → DeviceList × UsbBus
  | [], bus => ([], bus)
  | (interface, _) :: rest, bus =>
    let (usage, bus) := match id with
      | some id => bus.readUsage id interface
      | none => (none, bus)
    let (entries, bus) := entriesOf d id texts rest bus
    (entryOf d interface texts usage :: entries, bus)

/-- Lists one device. One that cannot be opened only lacks its strings and usages. -/
def describe (index : Nat) (d : UsbDevice) (bus : UsbBus) : DeviceList × UsbBus :=
  let interfaces := d.hidInterfaces
  if !d.isListed || interfaces.isEmpty then ([], bus)
  else match bus.openDevice index with
    | (.error _, bus) => entriesOf d none {} interfaces bus
    | (.ok id, bus) =>
      let (texts, bus) := bus.readTexts id d
      let (entries, bus) := entriesOf d (some id) texts interfaces bus
      (entries, bus.close id)

def describeAll : List (Nat × UsbDevice) → UsbBus → DeviceList × UsbBus
  | [], bus => ([], bus)
  | (index, d) :: rest, bus =>
    let (entries, bus) := describe index d bus
    let (others, bus) := describeAll rest bus
    (entries ++ others, bus)

def unlisted (e : UsbError) : AccessError := .enumeration e.text

def enumerate (bus : UsbBus) : Outcome UsbBus DeviceList :=
  match bus.attached with
  | .error e => (.error (unlisted e), bus)
  | .ok devices =>
    let (entries, bus) := describeAll devices bus
    (.ok entries, bus)

def resolve (path : String) (bus : UsbBus) : Except AccessError (Nat × UsbDevice × UInt8 × UsbPipes) :=
  match UsbPath.read? path with
  | none => .error (.deviceNotFound ("not a libusb path: " ++ path))
  | some p =>
    match bus.attached with
    | .error e => .error (unlisted e)
    | .ok devices =>
      match devices.find? fun (_, d) => d.bus == p.bus && d.address == p.address with
      | none =>
        .error (.deviceNotFound ("usb " ++ Text.Numeral.decimal 3 p.bus.toNat ++ ":"
          ++ Text.Numeral.decimal 3 p.address.toNat))
      | some (index, d) =>
        match d.descriptorError with
        | some e => .error e.toAccess
        | none =>
          match d.hidInterfaces.find? fun (n, _) => n == p.interface with
          | some (interface, pipes) => .ok (index, d, interface, pipes)
          | none => .error (.deviceNotFound path)

def unstarted (e : SystemError) : AccessError := .transfer ("cannot start reader: " ++ e.shown) false

/-- An interface without input has no reader. -/
def startReading (handle device : Nat) (pipes : UsbPipes) (bus : UsbBus) :
    Except SystemError Unit × UsbBus :=
  match pipes.input with
  | some e => bus.startReader handle device e
  | none => (.ok (), bus)

def openPath (path : String) (bus : UsbBus) : Outcome UsbBus UsbLink :=
  match bus.resolve path with
  | .error e => (.error e, bus)
  | .ok (index, d, interface, pipes) =>
    match bus.openDevice index with
    | (.error e, bus) => (.error e.toAccess, bus)
    | (.ok handle, bus) =>
      match bus.setAutoDetach.claim handle interface with
      | (.error e, bus) => (.error e.toAccess, bus.close handle)
      | (.ok (), bus) =>
        let (texts, bus) := bus.readTexts handle d
        match bus.startReading handle index pipes with
        | (.error e, bus) => (.error (unstarted e), bus.close handle)
        | (.ok (), bus) => (.ok { handle, interface, pipes, texts }, bus)

def releaseLink (l : UsbLink) (bus : UsbBus) : UsbBus :=
  ((bus.stopReader l.handle).release l.handle l.interface).close l.handle

def withoutInput : AccessError := .unsupported "interface has no interrupt IN endpoint"

def readLink (l : UsbLink) (buffer : Bytes) (patience : Duration) (bus : UsbBus) : Outcome UsbBus Arrival :=
  match bus.reader? l.handle with
  | none => (.error withoutInput, bus)
  | some r =>
    match r.queue.take buffer with
    | (.error e, _) => (.error e, bus)
    | (.ok (some received), queue) => (.ok (.now received), bus.setQueue l.handle queue)
    | (.ok none, _) => (.ok (.nothing patience), bus)

/-- The reader has seen that the device is gone. -/
def isLost (bus : UsbBus) (l : UsbLink) : Bool :=
  match bus.reader? l.handle with
  | some r => r.queue.disconnected
  | none => false

def ensureConnected (l : UsbLink) (bus : UsbBus) : Except AccessError Unit :=
  if bus.isLost l then .error InputQueue.lost else .ok ()

def reportRequest (l : UsbLink) (requestType request type id : UInt8) : UsbControl where
  requestType
  request
  value := UsbDevice.typed type id
  index := l.interface.toUInt16

def setReport (l : UsbLink) (type id : UInt8) (data : Bytes) (bus : UsbBus) : UsbResult Nat :=
  bus.controlOut l.handle (reportRequest l UsbDevice.classInterfaceOut UsbDevice.setReport type id) data
    transferTimeout

/-- The number of bytes sent, an id that stays behind included. -/
def sentCount (report data : Bytes) (r : UsbResult Nat) : Outcome UsbBus Nat :=
  match r with
  | (.ok n, bus) => (.ok (n + (report.length - data.length)), bus)
  | (.error e, bus) => (.error e.toAccess, bus)

def writeLink (l : UsbLink) (report : Bytes) (bus : UsbBus) : Outcome UsbBus Nat :=
  let prepared : Except AccessError (UInt8 × Bytes) := do
    bus.ensureConnected l
    let id ← UsbReport.firstByte report
    let data ← UsbReport.payload report (l.pipes.output.map (·.maxPacket))
    return (id, data)
  match prepared with
  | .error e => (.error e, bus)
  | .ok (id, data) =>
    match l.pipes.output with
    | some e => sentCount report data (bus.interruptOut l.handle e.address data transferTimeout)
    | none => sentCount report data (bus.setReport l outputReport id data)

def sendFeatureLink (l : UsbLink) (report : Bytes) (bus : UsbBus) : Outcome UsbBus Nat :=
  let prepared : Except AccessError UInt8 := do
    bus.ensureConnected l
    UsbReport.firstByte report
  match prepared with
  | .error e => (.error e, bus)
  | .ok id =>
    let data := UsbReport.wire report
    sentCount report data (bus.setReport l featureReport id data)

/-- The answer of the device, with an id of 0 put back in front. -/
def getFeatureLink (l : UsbLink) (buffer : Bytes) (bus : UsbBus) : Outcome UsbBus Received :=
  let prepared : Except AccessError UInt8 := do
    bus.ensureConnected l
    UsbReport.firstByte buffer
  match prepared with
  | .error e => (.error e, bus)
  | .ok id =>
    let target := UsbReport.wire buffer
    let kept := buffer.take (buffer.length - target.length)
    let c := reportRequest l UsbDevice.classInterfaceIn UsbDevice.getReport featureReport id
    match bus.controlIn l.handle c target transferTimeout with
    | (.ok r, bus) => (.ok ⟨kept.length + r.count, kept ++ r.buffer⟩, bus)
    | (.error e, bus) => (.error e.toAccess, bus)

def languageTable : AccessError := .validation "string index 0 is the language table"

/-- A string by index in the device's first language; an unknown index is no error. -/
def indexedText (l : UsbLink) (index : UInt8) (bus : UsbBus) : Outcome UsbBus (Option String) :=
  match bus.ensureConnected l with
  | .error e => (.error e, bus)
  | .ok () =>
    if index = 0 then (.error languageTable, bus)
    else match bus.readLanguages l.handle with
      | (.error e, bus) => (.error e.toAccess, bus)
      | (.ok [], bus) => (.ok none, bus)
      | (.ok (language :: _), bus) =>
        match bus.readText l.handle language index with
        | (.ok s, bus) => (.ok (some s), bus)
        | (.error .pipe, bus) | (.error .invalidParam, bus) => (.ok none, bus)
        | (.error e, bus) => (.error e.toAccess, bus)

def textLink (l : UsbLink) (query : StringQuery) (bus : UsbBus) : Outcome UsbBus (Option String) :=
  match query with
  | .indexed index => indexedText l index bus
  | query => (.ok (l.texts.get query), bus)

/-- The largest report without an id of its own: the id byte and one packet. -/
def outputLimit (l : UsbLink) : Option Nat := l.pipes.output.map fun e => e.maxPacket.toNat + 1

def backend : Backend UsbBus UsbLink Arrival where
  kind := .libusb
  read := readLink
  write := writeLink
  sendFeature := sendFeatureLink
  getFeature := getFeatureLink
  text := textLink
  outputLimit l bus := (outputLimit l, bus)
  release := releaseLink
  enumerate := enumerate
  openPath := openPath

end UsbBus

inductive UsbRequest where
  | calls
  | failList (e : Option UsbError)
  | feed (device : Nat) (report : UsbFed)
  /-- Waits for the readers, which have nothing left to do. -/
  | settle
  | unplug (device : Nat)
  | failControl (device : Nat) (f : UsbFailure)
  | failOut (device : Nat) (f : UsbFailure)
  | report (device : Nat) (interface value : UInt16) (data : Bytes)

inductive UsbReply where
  | done
  | calls (cs : List UsbCall)

namespace UsbBus

def control : UsbRequest → UsbBus → UsbReply × UsbBus
  | .calls, bus => let (cs, bus) := bus.takeCalls; (.calls cs, bus)
  | .failList e, bus => (.done, { bus with listError := e })
  | .feed index report, bus => (.done, settle (bus.change index fun d => { d with fed := d.fed ++ [report] }))
  | .settle, bus => (.done, bus)
  | .unplug index, bus => (.done, settle (bus.change index fun d => { d with attached := false }))
  | .failControl index f, bus =>
    (.done, bus.change index fun d => { d with controlFailures := d.controlFailures ++ [f] })
  | .failOut index f, bus => (.done, bus.change index fun d => { d with outFailures := d.outFailures ++ [f] })
  | .report index interface value data, bus => (.done, bus.change index (UsbDevice.store interface value data))

def bench : Bench UsbBus UsbLink UsbRequest UsbReply where
  backend := backend
  act := control
  givesWay
    | .settle => true
    | _ => false

end UsbBus

end HidAccess
