import HidAccess.BackendKind
import HidAccess.DeviceList
import HidAccess.Json.Printer
import HidAccess.Json.Reader

/-!
# Device entries as JSON

An entry is an object with one member per field. The reader ignores members that it does not know, takes
a missing optional field as absent, and refuses a field that is missing otherwise or given twice. It also
takes an array of the eleven values in order. A name of a fixed set may be written as a string or as the
only member of an object, with the value null.
-/

namespace HidAccess.Json

def optional (f : α → Value) : Option α → Value
  | some a => f a
  | none => .null

def text (s : String) : Value := .string (some s)

def integer (i : Int) : Value := .number (.ofInt i)

def id (n : UInt16) : Value := integer n.toNat

def valuesOf (name : String) (entries : List (StringText × Value)) : List Value :=
  (entries.filter fun e => e.1 == some name).map (·.2)

def member? (name : String) (entries : List (StringText × Value)) : Option (Option Value) :=
  match valuesOf name entries with
  | [] => some none
  | [v] => some (some v)
  | _ :: _ :: _ => none

def readText? : Value → Option String
  | .string s => s
  | _ => none

def readInt? (lo hi : Int) : Value → Option Int
  | .number n => n.int?.filter fun i => decide (lo ≤ i) && decide (i ≤ hi)
  | _ => none

def readId? (v : Value) : Option UInt16 := (readInt? 0 65535 v).map fun i => UInt16.ofNat i.toNat

def readInterface? (v : Value) : Option Int32 :=
  (readInt? (-2147483648) 2147483647 v).map Int32.ofInt

def readOptional? (read : Value → Option α) : Value → Option (Option α)
  | .null => some none
  | v => (read v).map some

def readName? (ofName : String → Option α) : Value → Option α
  | .string s => s.bind ofName
  | .object [(key, .null)] => key.bind ofName
  | _ => none

def readBus? : Value → Option Bus := readName? Bus.ofName?

def required? (read : Value → Option α) (name : String) (entries : List (StringText × Value)) :
    Option α :=
  match member? name entries with
  | some (some v) => read v
  | _ => none

def allowed? (read : Value → Option α) (name : String) (entries : List (StringText × Value)) :
    Option (Option α) :=
  match member? name entries with
  | some (some v) => readOptional? read v
  | some none => some none
  | none => none

end HidAccess.Json

namespace HidAccess

open Json (Value)

namespace DeviceEntry

def toJson (e : DeviceEntry) : Value :=
  .object
    [(some "path", Json.text e.path),
     (some "vendor_id", Json.id e.vendorId),
     (some "product_id", Json.id e.productId),
     (some "serial_number", Json.optional Json.text e.serialNumber),
     (some "release_number", Json.id e.releaseNumber),
     (some "manufacturer_string", Json.optional Json.text e.manufacturer),
     (some "product_string", Json.optional Json.text e.product),
     (some "usage_page", Json.optional Json.id e.usagePage),
     (some "usage", Json.optional Json.id e.usage),
     (some "interface_number", Json.integer e.interfaceNumber.toInt),
     (some "bus", Json.text e.bus.name)]

def ofEntries? (entries : List (Json.StringText × Value)) : Option DeviceEntry := do
  if entries.any fun e => e.1.isNone then none
  let path ← Json.required? Json.readText? "path" entries
  let vendorId ← Json.required? Json.readId? "vendor_id" entries
  let productId ← Json.required? Json.readId? "product_id" entries
  let serialNumber ← Json.allowed? Json.readText? "serial_number" entries
  let releaseNumber ← Json.required? Json.readId? "release_number" entries
  let manufacturer ← Json.allowed? Json.readText? "manufacturer_string" entries
  let product ← Json.allowed? Json.readText? "product_string" entries
  let usagePage ← Json.allowed? Json.readId? "usage_page" entries
  let usage ← Json.allowed? Json.readId? "usage" entries
  let interfaceNumber ← Json.required? Json.readInterface? "interface_number" entries
  let bus ← Json.required? Json.readBus? "bus" entries
  return { path, vendorId, productId, serialNumber, releaseNumber, manufacturer, product, usagePage,
           usage, interfaceNumber, bus }

def ofItems? : List Value → Option DeviceEntry
  | [path, vendorId, productId, serialNumber, releaseNumber, manufacturer, product, usagePage, usage,
     interfaceNumber, bus] => do
    return {
      path := ← Json.readText? path
      vendorId := ← Json.readId? vendorId
      productId := ← Json.readId? productId
      serialNumber := ← Json.readOptional? Json.readText? serialNumber
      releaseNumber := ← Json.readId? releaseNumber
      manufacturer := ← Json.readOptional? Json.readText? manufacturer
      product := ← Json.readOptional? Json.readText? product
      usagePage := ← Json.readOptional? Json.readId? usagePage
      usage := ← Json.readOptional? Json.readId? usage
      interfaceNumber := ← Json.readInterface? interfaceNumber
      bus := ← Json.readBus? bus }
  | _ => none

def ofJson? : Value → Option DeviceEntry
  | .object entries => ofEntries? entries
  | .array items => ofItems? items
  | _ => none

def readJson? (s : String) : Option DeviceEntry := (Json.read? s).bind ofJson?

end DeviceEntry

namespace DeviceList

def toJson (devices : DeviceList) : Value := .array (devices.map DeviceEntry.toJson)

def ofJson? : Value → Option DeviceList
  | .array items => items.mapM DeviceEntry.ofJson?
  | _ => none

def readJson? (s : String) : Option DeviceList := (Json.read? s).bind ofJson?

end DeviceList

def Bus.readJson? (s : String) : Option Bus := (Json.read? s).bind Json.readBus?

def BackendKind.readJson? (s : String) : Option BackendKind :=
  (Json.read? s).bind (Json.readName? BackendKind.ofName?)

end HidAccess
