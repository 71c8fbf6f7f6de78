import HidAccess.Config.Basic
import HidAccess.Toml.Document
import HidAccess.Toml.Printer

/-!
# Settings as TOML

Settings stand in the tables `backend`, `read` and `logging`. Missing tables and keys take their defaults;
unknown ones are ignored. A table may also be given as the array of its values in order, of which those
beyond its fields are ignored, and a backend as a table whose only key is its name. Types are strict: no
float or string stands for an integer.
-/

namespace HidAccess.Config

open Toml (Value Table)

def fieldValues? (names : List String) : Value → Option (List (Option Value))
  | .table entries => some (names.map fun name => entries.lookup name)
  | .array items => some ((List.range names.length).map fun i => items[i]?)
  | .moment => some (names.map fun _ => none)
  | _ => none

def isEmptyGroup : Value → Bool
  | .table [] => true
  | .array [] => true
  | _ => false

def readKind? : Value → Option BackendKind
  | .string s => BackendKind.ofName? s
  | .table [(name, v)] => if isEmptyGroup v then BackendKind.ofName? name else none
  | _ => none

def readCount? : Value → Option Nat
  | .integer i => if 0 ≤ i then some i.toNat else none
  | _ => none

def readText? : Value → Option String
  | .string s => some s
  | _ => none

def fieldOr (default : α) (read : Value → Option α) : Option Value → Option α
  | none => some default
  | some v => read v

def readBackend? (c : Config) (v : Value) : Option Config := do
  match ← fieldValues? ["kind"] v with
  | [kind] => return { c with kind := ← fieldOr c.kind (fun v => (readKind? v).map some) kind }
  | _ => none

def readReading? (c : Config) (v : Value) : Option Config := do
  match ← fieldValues? ["poll_interval_ms", "default_report_len"] v with
  | [interval, length] =>
    return { c with
      pollIntervalMillis := ← fieldOr c.pollIntervalMillis readCount? interval
      reportLength := ← fieldOr c.reportLength readCount? length }
  | _ => none

def readLogging? (c : Config) (v : Value) : Option Config := do
  match ← fieldValues? ["level"] v with
  | [level] => return { c with logLevel := ← fieldOr c.logLevel readText? level }
  | _ => none

def readTable? (t : Table) (name : String) (read : Config → Value → Option Config) (c : Config) :
    Option Config :=
  match t.lookup name with
  | none => some c
  | some v => read c v

def ofTable? (t : Table) : Option Config := do
  let c ← readTable? t "backend" readBackend? {}
  let c ← readTable? t "read" readReading? c
  readTable? t "logging" readLogging? c

def documentError : AccessError := .config "invalid config"

def ofToml (build : Build) (text : String) : Except AccessError Config :=
  match (Toml.read? text).bind ofTable? with
  | none => .error documentError
  | some c =>
    match validate build c with
    | .ok () => .ok c
    | .error e => .error e

def kindLine : Option BackendKind → String
  | some k => "kind = " ++ Toml.stringText k.name ++ "\n"
  | none => ""

/-- The document of the settings, if its numbers fit the format's integers. -/
def toToml? (c : Config) : Option String :=
  if (c.pollIntervalMillis : Int) ≤ Toml.maxInteger ∧ (c.reportLength : Int) ≤ Toml.maxInteger then
    some ("[backend]\n" ++ kindLine c.kind
      ++ "\n[read]\npoll_interval_ms = " ++ toString c.pollIntervalMillis
      ++ "\ndefault_report_len = " ++ toString c.reportLength
      ++ "\n\n[logging]\nlevel = " ++ Toml.stringText c.logLevel ++ "\n")
  else none

end HidAccess.Config
