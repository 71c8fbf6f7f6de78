import HidAccess.Clocked
import HidAccess.DeviceList
import HidAccess.Handle.Read

/-!
# The state of a session

A clock, the backend's world, the interval for new handles, the handles and the kept listings, and the reads
that go on in threads of their own. Each handle has a slot for good. A handle that loses its name is dropped,
though not before the last read on it ends.
-/

namespace HidAccess

structure Slot (D : Type) where
  name : Option String
  handle : Handle D

inductive ReadPhase where
  | called
  /-- It waits for its turn at the device. -/
  | queued (r : Reading) (since : Instant)
  /-- It is in a device read, which brings nothing after an instant. -/
  | inside (r : Reading) (till : Instant)
  | ended (r : ReadEnd)

structure PendingRead where
  slot : Nat
  length : Nat
  timeout : Option Duration
  phase : ReadPhase := .called

namespace PendingRead

def hasEnded (p : PendingRead) : Bool :=
  match p.phase with
  | .ended _ => true
  | _ => false

def till? (p : PendingRead) : Option Instant :=
  match p.phase with
  | .inside _ till => some till
  | _ => none

def since? (p : PendingRead) : Option Instant :=
  match p.phase with
  | .queued _ since => some since
  | _ => none

end PendingRead

structure Session (S D : Type) where
  state : S
  now : Instant := 0
  interval : Duration := Duration.millis 20
  slots : List (Slot D) := []
  kept : List (String × DeviceList) := []
  /-- The reads in threads of their own, the one called last at the end. -/
  reads : List PendingRead := []
  /-- The slot whose device a read of the session itself is waiting at. -/
  held : Option Nat := none

namespace Session

variable {S D : Type}

/-- How many device reads a single read may take, and how much may happen during one wait. -/
def patience : Nat := 1000000

def slotOf? (name : String) (s : Session S D) : Option Nat :=
  s.slots.findIdx? fun slot => slot.name == some name

def handleAt? (index : Nat) (s : Session S D) : Option (Handle D) := s.slots[index]?.map (·.handle)

def putHandle (index : Nat) (h : Handle D) (s : Session S D) : Session S D :=
  { s with slots := s.slots.modify index fun slot => { slot with handle := h } }

def isRead (slot : Nat) (s : Session S D) : Bool := s.reads.any fun p => p.slot == slot && !p.hasEnded

def isTaken (slot : Nat) (s : Session S D) : Bool :=
  s.held == some slot || s.reads.any fun p => p.slot == slot && p.till?.isSome

def backendOf (b : Backend S D Arrival) : Backend (Session S D) D Received :=
  (b.lift Session.state fun s state => { s with state }).withRead fun d buffer patience s =>
    let (r, state) := b.read d buffer patience s.state
    (r.map (Arrival.received buffer), { s with state })

def prompt (b : Backend S D Arrival) : Platform (Session S D) D :=
  (backendOf b).toDeviceCalls.alone fun s => (s.now, s)

/-- Drops a handle without a name, unless a read on it goes on. -/
def sweep (b : Backend S D Arrival) (index : Nat) (s : Session S D) : Session S D :=
  match s.slots[index]? with
  | some slot =>
    if slot.name.isNone && !s.isRead index then
      let (h, s) := slot.handle.drop (prompt b) s
      s.putHandle index h
    else s
  | none => s

def forget (b : Backend S D Arrival) (name : String) (s : Session S D) : Session S D :=
  match s.slotOf? name with
  | some index =>
    sweep b index { s with slots := s.slots.modify index fun slot => { slot with name := none } }
  | none => s

/-- Names a handle; the one that had the name before loses it. -/
def adopt (b : Backend S D Arrival) (name : String) (h : Handle D) (s : Session S D) : Session S D :=
  let s := forget b name s
  { s with slots := s.slots ++ [⟨some name, h⟩] }

end Session

end HidAccess
