import HidAccess.AccessError

/-!
# Errors of USB calls

The error of a USB call, its text, and the device error that it means.
-/

namespace HidAccess

inductive UsbError where
  | io
  | invalidParam
  | access
  | noDevice
  | notFound
  | busy
  | timeout
  | overflow
  | pipe
  | interrupted
  | noMemory
  | notSupported
  | badDescriptor
  | other
  deriving DecidableEq, Repr, Inhabited

namespace UsbError

def all : List UsbError :=
  [.io, .invalidParam, .access, .noDevice, .notFound, .busy, .timeout, .overflow, .pipe, .interrupted,
   .noMemory, .notSupported, .badDescriptor, .other]

def name : UsbError → String
  | .io => "Io"
  | .invalidParam => "InvalidParam"
  | .access => "Access"
  | .noDevice => "NoDevice"
  | .notFound => "NotFound"
  | .busy => "Busy"
  | .timeout => "Timeout"
  | .overflow => "Overflow"
  | .pipe => "Pipe"
  | .interrupted => "Interrupted"
  | .noMemory => "NoMem"
  | .notSupported => "NotSupported"
  | .badDescriptor => "BadDescriptor"
  | .other => "Other"

def ofName? (s : String) : Option UsbError := all.find? fun e => e.name == s

def text : UsbError → String
  | .io => "Input/Output Error"
  | .invalidParam => "Invalid parameter"
  | .access => "Access denied (insufficient permissions)"
  | .noDevice => "No such device (it may have been disconnected)"
  | .notFound => "Entity not found"
  | .busy => "Resource busy"
  | .timeout => "Operation timed out"
  | .overflow => "Overflow"
  | .pipe => "Pipe error"
  | .interrupted => "System call interrupted (perhaps due to signal)"
  | .noMemory => "Insufficient memory"
  | .notSupported => "Operation not supported or unimplemented on this platform"
  | .badDescriptor => "Malformed descriptor"
  | .other => "Other error"

def toAccess (e : UsbError) : AccessError :=
  match e with
  | .noDevice => .transfer e.text true
  | .notFound => .deviceNotFound e.text
  | .access => .accessDenied e.text
  | .busy => .alreadyOpen e.text
  | .invalidParam | .overflow => .validation e.text
  | .notSupported => .unsupported e.text
  | .io | .timeout | .pipe | .interrupted | .noMemory | .badDescriptor | .other => .transfer e.text false

theorem ofName?_name (e : UsbError) : ofName? e.name = some e := by cases e <;> decide

end UsbError

end HidAccess
