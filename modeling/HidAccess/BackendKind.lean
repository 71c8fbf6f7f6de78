import HidAccess.AccessError
import HidAccess.Text.Blank

/-!
# Kinds of backends

Four backends exist; a build contains some of them and prefers one when the configuration names none.
-/

namespace HidAccess

inductive BackendKind where
  | hidraw
  | libusb
  | hidapi
  | virtual
  deriving DecidableEq, Repr, Inhabited

namespace BackendKind

def all : List BackendKind := [.hidraw, .libusb, .hidapi, .virtual]

def name : BackendKind → String
  | .hidraw => "hidraw"
  | .libusb => "libusb"
  | .hidapi => "hidapi"
  | .virtual => "virtual"

def shown : BackendKind → String
  | .hidraw => "Hidraw"
  | .libusb => "Libusb"
  | .hidapi => "Hidapi"
  | .virtual => "Virtual"

def ofName? (s : String) : Option BackendKind := all.find? fun k => k.name == s

def read? (s : String) : Option BackendKind :=
  let letters := (Text.trim s.toList).map Char.toLower
  all.find? fun k => k.name.toList == letters

def readError (s : String) : String :=
  "unknown backend `" ++ s ++ "` (expected hidraw, libusb, hidapi, or virtual)"

theorem ofName?_name (k : BackendKind) : ofName? k.name = some k := by cases k <;> decide

end BackendKind

/-- What a build contains: the system's device nodes and the in-memory bus, or everything. -/
inductive Build where
  | standard
  | complete
  deriving DecidableEq, Repr, Inhabited

namespace Build

def contains : Build → BackendKind → Bool
  | .complete, _ => true
  | .standard, .hidraw | .standard, .virtual => true
  | .standard, .libusb | .standard, .hidapi => false

def defaultKind : Build → BackendKind
  | .standard => .hidraw
  | .complete => .hidapi

def missing (k : BackendKind) : AccessError :=
  .config ("backend `" ++ k.name ++ "` is not compiled into this build")

end Build

end HidAccess
