import HidAccess.Session.State

/-!
# What goes on beside the steps

The steps of a session run in one thread, reads beside them in threads of their own. The other threads get on
whenever the steps wait: for a time to pass, for their turn at a device, or for a read beside them to end. A
device is used by one operation at a time. A device read keeps it until a report comes or its time is over;
who has waited longest for the device is next.

Nothing but a wait takes time. When the steps and a read are due at the same instant, the steps come first.
-/

namespace HidAccess.Session

variable {S D : Type}

def setPhase (index : Nat) (phase : ReadPhase) (s : Session S D) : Session S D :=
  { s with reads := s.reads.modify index fun p => { p with phase } }

def endRead (b : Backend S D Arrival) (index slot : Nat) (ended : ReadEnd) (s : Session S D) : Session S D :=
  sweep b slot (s.setPhase index (.ended ended))

/-- The end of a device read: the read ends with it or queues for the next one. -/
def endSlice (b : Backend S D Arrival) (index slot : Nat) (r : Reading) (received : Received)
    (s : Session S D) : Session S D :=
  match r.outcome? received s.now with
  | some outcome => endRead b index slot (.returned (.ok outcome)) s
  | none => s.setPhase index (.queued { r with buffer := received.buffer } s.now)

def look (b : Backend S D Arrival) (index slot : Nat) (r : Reading) (slice : Duration) (h : Handle D)
    (s : Session S D) : Session S D :=
  let call (d : D) (s : Session S D) : Outcome (Session S D) Arrival :=
    let (arrival, state) := b.read d r.buffer slice s.state
    (arrival, { s with state })
  match h.withDevice (prompt b) call s with
  | (.error e, h, s) => endRead b index slot (.returned (.error e)) (s.putHandle slot h)
  | (.ok (.now received), h, s) => endSlice b index slot r received (s.putHandle slot h)
  | (.ok (.nothing wait), h, s) =>
    let s := s.putHandle slot h
    if wait = 0 then endSlice b index slot r ⟨0, r.buffer⟩ s
    else s.setPhase index (.inside r (s.now + wait))

def start (b : Backend S D Arrival) (index : Nat) (p : PendingRead) (h : Handle D) (s : Session S D) :
    Session S D :=
  match h.startRead p.length p.timeout s.now with
  | .error ended => endRead b index p.slot ended s
  | .ok r => s.setPhase index (.queued r s.now)

def isWoken (b : Backend S D Arrival) (r : Reading) (h : Handle D) (s : Session S D) : Bool :=
  match h.device with
  | none => true
  | some d =>
    match (b.read d r.buffer 0 s.state).1 with
    | .ok (.nothing _) => false
    | _ => true

/-- The device of a slot is free for one who came at some instant, as nobody waits longer for it. -/
def isFree (slot : Nat) (came : Instant) (s : Session S D) : Bool :=
  !s.isTaken slot && s.reads.all fun p => p.slot != slot || p.since?.all fun t => decide (came ≤ t)

def canGoOn (b : Backend S D Arrival) (s : Session S D) (p : PendingRead) : Bool :=
  match p.phase with
  | .called => true
  | .queued _ since => s.isFree p.slot since
  | .inside r _ => (s.handleAt? p.slot).any fun h => isWoken b r h s
  | .ended _ => false

/-- Lets a read get on. How long a device read may take was settled before it queued. -/
def goOn (b : Backend S D Arrival) (index : Nat) (s : Session S D) : Session S D :=
  match s.reads[index]? with
  | none => s
  | some p =>
    match s.handleAt? p.slot, p.phase with
    | some h, .called => start b index p h s
    | some h, .queued r since => look b index p.slot r (r.slice h.interval since) h s
    | some h, .inside r _ => look b index p.slot r 0 h s
    | _, _ => s

def firstOver? (limit : Option Instant) (s : Session S D) : Option Nat :=
  let ends := s.reads.filterMap PendingRead.till?
  match ends.min? with
  | none => none
  | some t =>
    if limit.all fun limit => decide (t < limit) then s.reads.findIdx? fun p => p.till? == some t else none

def runOut (b : Backend S D Arrival) (index : Nat) (s : Session S D) : Session S D :=
  match s.reads[index]? with
  | some { slot, phase := .inside r till, .. } =>
    endSlice b index slot r ⟨0, r.buffer⟩ { s with now := max s.now till }
  | _ => s

def next? (b : Backend S D Arrival) (limit : Option Instant) (s : Session S D) : Option (Session S D) :=
  match s.reads.findIdx? (canGoOn b s) with
  | some index => some (goOn b index s)
  | none => (s.firstOver? limit).map fun index => runOut b index s

/-- Lets the other threads get on until something holds or nothing more happens before the limit. -/
def runUntil (b : Backend S D Arrival) (limit : Option Instant) (stop : Session S D → Bool) :
    (events : Nat) → Session S D → Session S D
  | 0, s => s
  | events + 1, s =>
    if stop s then s
    else match next? b limit s with
      | some s => runUntil b limit stop events s
      | none => s

def giveWay (b : Backend S D Arrival) (s : Session S D) : Session S D :=
  runUntil b (some s.now) (fun _ => false) patience s

def pass (b : Backend S D Arrival) (d : Duration) (s : Session S D) : Session S D :=
  if d = 0 then s
  else
    let t := s.now + d
    { runUntil b (some t) (fun _ => false) patience s with now := t }

/-- A device read of the steps themselves, which keeps the device until its time is over. -/
def readDevice (b : Backend S D Arrival) (slot : Nat) (d : D) (buffer : Bytes) (wait : Duration)
    (s : Session S D) : Outcome (Session S D) Received :=
  let (r, state) := b.read d buffer wait s.state
  let s := { s with state }
  match r with
  | .error e => (.error e, s)
  | .ok (.now received) => (.ok received, s)
  | .ok (.nothing 0) => (.ok ⟨0, buffer⟩, s)
  | .ok (.nothing wait) => (.ok ⟨0, buffer⟩, { pass b wait { s with held := some slot } with held := none })

/-- Waits for a turn at the device of a slot, whose handle may have changed then. -/
def acquire (b : Backend S D Arrival) (slot : Nat) (h : Handle D) (s : Session S D) :
    Handle D × Session S D :=
  let s := runUntil b none (isFree slot s.now) patience s
  ((s.handleAt? slot).getD h, s)

def platform (b : Backend S D Arrival) (slot : Nat) : Platform (Session S D) D :=
  { prompt b with read := readDevice b slot, acquire := acquire b slot }

def call (slot length : Nat) (timeout : Option Duration) (s : Session S D) : Session S D :=
  { s with reads := s.reads ++ [{ slot, length, timeout }] }

def endOf? (index : Nat) (s : Session S D) : Option ReadEnd :=
  match s.reads[index]? with
  | some { phase := .ended r, .. } => some r
  | _ => none

def join (b : Backend S D Arrival) (index : Nat) (s : Session S D) : ReadEnd × Session S D :=
  let s := runUntil b none (fun s => (s.endOf? index).isSome) patience s
  ((s.endOf? index).getD .waiting, { s with reads := s.reads.take index })

end HidAccess.Session
