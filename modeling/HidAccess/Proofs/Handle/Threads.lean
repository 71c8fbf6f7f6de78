import HidAccess.Proofs.Handle.Operation
import Mathlib.Logic.Function.Basic

/-! One handle shared by threads, which take the steps of their operations in any order. A step is
one look at the flag or at the clock, one taking or giving back of the device's lock, the beginning
or the end of a device call, or one change of the handle. The world may change between any two
steps, and a device call ends in the world as it is then. -/

namespace HidAccess.Handle
variable {T W D α : Type}

inductive Sequel where
  | answer (a : Answer)
  | consider (r : Reading) (received : Received)

def Sequel.ofCall : Except AccessError Sequel → Sequel
  | .ok sequel => sequel
  | .error e => .answer (.failed e)

/-- What a thread wants of the device: the one call of a transfer, or one device read of a read. -/
inductive Errand (W D : Type) where
  | transfer (call : D → W → Outcome W Answer)
  | slice (r : Reading) (patience : Duration)

def Errand.call (p : Platform W D) : Errand W D → D → W → Outcome W Sequel
  | .transfer call => fun d w => Prod.map (Except.map .answer) id (call d w)
  | .slice r patience => fun d w =>
    Prod.map (Except.map (.consider r)) id (p.read d r.buffer patience w)

inductive Point (W D : Type) where
  | opening (length : Nat) (timeout : Option Duration)
  | starting (length : Nat) (timeout : Option Duration) (now : Instant)
  | timing (r : Reading)
  | entering (e : Errand W D)
  | queued (e : Errand W D)
  | locked (e : Errand W D)
  /-- The flag was down at the second look, under the lock. -/
  | ready (e : Errand W D) (d : D)
  | calling (e : Errand W D) (d : D)
  | retiring (sequel : Sequel)
  | leaving (sequel : Sequel)
  | considering (r : Reading) (received : Received)
  | switching (blocking : Bool)
  | storing (blocking : Bool)
  | returning (a : Answer)
  | closing
  | awaiting
  | taking
  | taken (d : Option D)
  | releasing (d : Option D)
  | closed (r : Except AccessError Unit)

inductive Deed (D : Type) where
  | called (o : Operation)
  | loaded (closed : Bool)
  | started
  | timed (now : Instant)
  | locked
  | rechecked (d : Option D)
  | began (d : D)
  | ended (result : Except AccessError Sequel)
  | released (d : Option D)
  | unlocked
  | considered (received : Received) (now : Instant)
  | stored
  | swapped (first : Bool)
  | took (d : Option D)
  | returned (a : Answer)
  | closed (r : Except AccessError Unit)

def Deed.answer? : Deed D → Option Answer
  | .returned a => some a
  | .closed r => some (.ofExcept (fun _ => .done) r)
  | _ => none

structure Common (T W D : Type) where
  handle : Handle D
  holder : Option T := none
  world : W

def refusal : Answer := .failed .handleClosed

def transferring (answer : α → Answer) (call : D → W → Outcome W α) : Point W D :=
  .entering (.transfer fun d w => Prod.map (Except.map answer) id (call d w))

def refusedOr (refusal : Option AccessError) (pt : Point W D) : Point W D :=
  match refusal with
  | some e => .returning (.failed e)
  | none => pt

/-- Where an operation starts. To drop a handle is nothing that threads can do while they share it. -/
def Operation.start? (p : Platform W D) : Operation → Option (Point W D)
  | .read _ length timeout => some (.opening length timeout)
  | .write report => some (refusedOr (refuseEmpty report "write buffer is empty")
      (transferring .count (writeDevice p report)))
  | .sendFeature report => some (refusedOr (refuseEmpty report "feature report is empty")
      (transferring .count fun d w => p.sendFeature d report w))
  | .getFeature reportId length =>
    some (if length = 0 then .returning (.failed (.validation "feature report length must be non-zero"))
      else match bufferCrash? length with
        | some crash => .returning (.crashed crash)
        | none => transferring (fun r => .report r.report) fun d w =>
          p.getFeature d (featureBuffer reportId length) w)
  | .text query => some (transferring .text fun d w => p.text d query w)
  | .setBlocking blocking => some (.switching blocking)
  | .close => some .closing
  | .drop => none

def Sequel.next : Sequel → Point W D
  | .answer a => .returning a
  | .consider r received => .considering r received

/-- The next step of a thread, and where it is then; nothing while it waits for the lock. -/
def Point.move (p : Platform W D) (t : T) (g : Common T W D) :
    Point W D → Option (Deed D × Option (Point W D) × Common T W D)
  | .opening length timeout =>
    let (now, world) := p.now g.world
    some (.loaded g.handle.closed, some (if length = 0 then .returning (.failed emptyRead)
      else if g.handle.closed then .returning refusal
      else .starting length timeout now), { g with world })
  | .starting length timeout now =>
    some (.started, some (match readCrash? length timeout now with
      | some crash => .returning (.crashed crash)
      | none => .timing (g.handle.reading length (timeout.bind now.after?))), g)
  | .timing r =>
    let (now, world) := p.now g.world
    some (.timed now, some (.entering (.slice r (r.slice g.handle.interval now))), { g with world })
  | .entering e =>
    some (.loaded g.handle.closed,
      some (if g.handle.closed then .returning refusal else .queued e), g)
  | .queued e =>
    match g.holder with
    | none => some (.locked, some (.locked e), { g with holder := some t })
    | some _ => none
  | .locked e =>
    some (.rechecked g.handle.live?, some (match g.handle.live? with
      | some d => .ready e d
      | none => .leaving (.answer refusal)), g)
  | .ready e d => some (.began d, some (.calling e d), g)
  | .calling e d =>
    let (result, world) := e.call p d g.world
    some (.ended result, some (if isLost result then .retiring (.ofCall result)
      else .leaving (.ofCall result)), { g with world })
  | .retiring sequel =>
    let (handle, world) := g.handle.retire p g.world
    some (.released g.handle.device, some (.leaving sequel), { g with handle, world })
  | .leaving sequel => some (.unlocked, some sequel.next, { g with holder := none })
  | .considering r received =>
    let (now, world) := p.now g.world
    some (.considered received now, some (match r.after received now with
      | .ok r => .timing r
      | .error ended => .returning (.ofRead ended)), { g with world })
  | .switching blocking =>
    some (.loaded g.handle.closed,
      some (if g.handle.closed then .returning refusal else .storing blocking), g)
  | .storing blocking =>
    some (.stored, some (.returning .done), { g with handle := { g.handle with blocking } })
  | .returning a => some (.returned a, none, g)
  | .closing =>
    some (.swapped !g.handle.closed,
      some (if g.handle.closed then .closed (.error .handleClosed) else .awaiting),
      { g with handle := { g.handle with closed := true } })
  | .awaiting =>
    match g.holder with
    | none => some (.locked, some .taking, { g with holder := some t })
    | some _ => none
  | .taking =>
    some (.took g.handle.device, some (.taken g.handle.device),
      { g with handle := { g.handle with device := none } })
  | .taken d => some (.unlocked, some (.releasing d), { g with holder := none })
  | .releasing d =>
    some (.released d, some (.closed (.ok ())),
      { g with world := match d with
        | some d => p.release d g.world
        | none => g.world })
  | .closed r => some (.closed r, none, g)

/-- All threads that share a handle; one without a point is in no operation. -/
structure Shared (T W D : Type) extends Common T W D where
  point : T → Option (Point W D)

/-- What may happen next: an idle thread calls an operation, a thread takes its next step, or the
world changes. -/
inductive Action (T W : Type) where
  | call (t : T) (o : Operation)
  | move (t : T)
  | outside (w : W)

namespace Shared
variable [DecidableEq T]

def opened (path : String) (d : D) (interval : Duration) (w : W) : Shared T W D where
  handle := .opened path d interval
  world := w
  point _ := none

def goTo (s : Shared T W D) (t : T) (pt : Option (Point W D)) : T → Option (Point W D) :=
  Function.update s.point t pt

def call (p : Platform W D) (s : Shared T W D) (t : T) (o : Operation) :
    Option (T × Deed D) × Shared T W D :=
  match s.point t, o.start? p with
  | none, some pt => (some (t, .called o), { s with point := s.goTo t (some pt) })
  | _, _ => (none, s)

def move (p : Platform W D) (s : Shared T W D) (t : T) : Option (T × Deed D) × Shared T W D :=
  match (s.point t).bind (Point.move p t s.toCommon) with
  | some (deed, pt, g) => (some (t, deed), { g with point := s.goTo t pt })
  | none => (none, s)

def step (p : Platform W D) (s : Shared T W D) : Action T W → Option (T × Deed D) × Shared T W D
  | .call t o => s.call p t o
  | .move t => s.move p t
  | .outside world => (none, { s with world })

def run (p : Platform W D) (s : Shared T W D) : List (Action T W) → List (T × Deed D) × Shared T W D
  | [] => ([], s)
  | a :: as =>
    let (deed, s) := s.step p a
    let (deeds, s) := s.run p as
    (deed.toList ++ deeds, s)

end Shared

end HidAccess.Handle
