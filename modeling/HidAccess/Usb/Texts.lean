import HidAccess.DeviceTexts
import HidAccess.Usb.Bus

/-!
# Strings of USB devices

String descriptors hold UTF-16 in some language; the descriptor number 0 lists the languages instead. A
descriptor starts with its own length. A device's strings are read in the first of its languages, and a
string that cannot be read is simply absent.
-/

namespace HidAccess

namespace UsbBus

def stringTimeout : Duration := Duration.millis 100

def stringSize : Nat := 255

def wordsOf : Bytes → List Nat
  | low :: high :: rest => (low.toNat + 256 * high.toNat) :: wordsOf rest
  | _ => []

def descriptorWords (r : Received) : Except UsbError (List Nat) :=
  if r.count < 2 ∨ r.count % 2 = 1 ∨ r.buffer.head? ≠ some (UInt8.ofNat r.count) then .error .badDescriptor
  else .ok (wordsOf (r.report.drop 2))

def readWords (id : Nat) (index : UInt8) (language : UInt16) (bus : UsbBus) : UsbResult (List Nat) :=
  let c : UsbControl :=
    { requestType := UsbDevice.standardDeviceIn, request := UsbDevice.getDescriptor,
      value := UsbDevice.typed UsbDevice.stringDescriptor index, index := language }
  match bus.controlIn id c (List.replicate stringSize 0) stringTimeout with
  | (.error e, bus) => (.error e, bus)
  | (.ok r, bus) => (descriptorWords r, bus)

def readLanguages (id : Nat) (bus : UsbBus) : UsbResult (List Nat) := readWords id 0 0 bus

def readText (id : Nat) (language : Nat) (index : UInt8) (bus : UsbBus) : UsbResult String :=
  match bus.readWords id index (UInt16.ofNat language) with
  | (.error e, bus) => (.error e, bus)
  | (.ok words, bus) =>
    match Text.Utf16.decode? words with
    | some s => (.ok s, bus)
    | none => (.error .other, bus)

def readKept (id : Nat) (language : Nat) (index : UInt8) (bus : UsbBus) : Option String × UsbBus :=
  if index = 0 then (none, bus)
  else match bus.readText id language index with
    | (.ok s, bus) => (if s.isEmpty then none else some s, bus)
    | (.error _, bus) => (none, bus)

def readTexts (id : Nat) (d : UsbDevice) (bus : UsbBus) : DeviceTexts × UsbBus :=
  match bus.readLanguages id with
  | (.ok (language :: _), bus) =>
    let (manufacturer, bus) := bus.readKept id language d.manufacturerIndex
    let (product, bus) := bus.readKept id language d.productIndex
    let (serial, bus) := bus.readKept id language d.serialIndex
    ({ manufacturer, product, serial }, bus)
  | (.ok [], bus) | (.error _, bus) => ({}, bus)

end UsbBus

end HidAccess
