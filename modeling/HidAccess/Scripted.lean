import HidAccess.Session

/-!
# Scripted devices

A backend whose devices answer from a script: every device call takes the next entry and does what it
says. Each opened device has its own copy of the script. All calls are written down in order, so that a
user of the backend can see what reached the device. No call takes any time.
-/

namespace HidAccess

structure ScriptEntry where
  failure : Option AccessError := none
  data : Bytes := []
  /-- The result of a call, where it is not the number of bytes copied. -/
  result : Option Nat := none
  text : Option String := none
  deriving Repr

structure ScriptedSpec where
  openFailure : Option AccessError := none
  outputLimit : Option Nat := none
  script : List ScriptEntry := []
  deriving Repr

inductive ScriptedCall where
  | opened (path : String)
  | read (length : Nat) (patience : Duration)
  | write (report : Bytes)
  | sendFeature (report : Bytes)
  | getFeature (buffer : Bytes)
  | manufacturer
  | product
  | serial
  | released (path : String)
  deriving Repr

structure Scripted where
  listing : Except AccessError DeviceList := .ok []
  devices : List (String × ScriptedSpec) := []
  /-- What is left of the script of each device opened so far. -/
  scripts : List (List ScriptEntry) := []
  /-- The calls so far, newest first. -/
  calls : List ScriptedCall := []

structure ScriptedDevice where
  number : Nat
  path : String
  outputLimit : Option Nat
  deriving Repr

namespace Scripted

def note (call : ScriptedCall) (s : Scripted) : Scripted := { s with calls := call :: s.calls }

def takeCalls (s : Scripted) : List ScriptedCall × Scripted := (s.calls.reverse, { s with calls := [] })

def exhausted : AccessError := .transfer "script exhausted" false

def answer (call : ScriptedCall) (use : ScriptEntry → α) (d : ScriptedDevice) (s : Scripted) :
    Outcome Scripted α :=
  let s := s.note call
  match s.scripts[d.number]? with
  | some (entry :: rest) =>
    let s := { s with scripts := s.scripts.set d.number rest }
    match entry.failure with
    | some e => (.error e, s)
    | none => (.ok (use entry), s)
  | _ => (.error exhausted, s)

def received (buffer : Bytes) (entry : ScriptEntry) : Received :=
  let filled := Received.fill buffer entry.data
  { filled with count := entry.result.getD filled.count }

def queryText (d : ScriptedDevice) (s : Scripted) : StringQuery → Outcome Scripted (Option String)
  | .manufacturer => answer .manufacturer (·.text) d s
  | .product => answer .product (·.text) d s
  | .serial => answer .serial (·.text) d s
  | .indexed _ => (.error DeviceCalls.noIndexedText, s)

def openPath (path : String) (s : Scripted) : Outcome Scripted ScriptedDevice :=
  let s := s.note (.opened path)
  match s.devices.lookup path with
  | none => (.error (.deviceNotFound path), s)
  | some spec =>
    match spec.openFailure with
    | some e => (.error e, s)
    | none =>
      (.ok ⟨s.scripts.length, path, spec.outputLimit⟩, { s with scripts := s.scripts ++ [spec.script] })

def backend (kind : BackendKind) : Backend Scripted ScriptedDevice Arrival where
  kind
  read d buffer patience s :=
    let (r, s) := answer (.read buffer.length patience) (received buffer) d s
    (r.map .now, s)
  write d report := answer (.write report) (fun e => e.result.getD 0) d
  sendFeature d report := answer (.sendFeature report) (fun e => e.result.getD 0) d
  getFeature d buffer := answer (.getFeature buffer) (received buffer) d
  text d query s := queryText d s query
  outputLimit d s := (d.outputLimit, s)
  release d := note (.released d.path)
  enumerate s := (s.listing, s)
  openPath := openPath

def bench (kind : BackendKind) : Bench Scripted ScriptedDevice Unit (List ScriptedCall) where
  backend := backend kind
  act _ := takeCalls

end Scripted

end HidAccess
