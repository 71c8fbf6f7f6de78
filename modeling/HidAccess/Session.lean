import HidAccess.Manager
import HidAccess.Session.Beside
import HidAccess.Session.Step

/-!
# Sessions

A session runs steps one after the other, and each has one reply. During a read with other steps beside it,
the read has a thread of its own; the steps run after some time, and then the read is waited for. A session
gets no further than a call that crashes or has no end.
-/

namespace HidAccess

structure Bench (S D A R : Type) where
  backend : Backend S D Arrival
  act : A → S → R × S
  /-- Doing this takes long enough for other threads to get on. -/
  givesWay : A → Bool := fun _ => false

namespace Session

variable {S D A R α : Type}

def manager (b : Bench S D A R) (s : Session S D) : Manager (Session S D) D where
  backend := backendOf b.backend
  interval := s.interval

def openWith (b : Bench S D A R) (name : String)
    (request : Manager (Session S D) D → Session S D → Outcome (Session S D) (Handle D))
    (s : Session S D) : Reply R × Session S D :=
  match request (manager b s) s with
  | (.ok h, s) => (.text h.path, adopt b.backend name h s)
  | (.error e, s) => (.failed e, s)

def enumerate (b : Bench S D A R) (vendorId productId : UInt16) (keepAs : Option String)
    (s : Session S D) : Reply R × Session S D :=
  match (manager b s).enumerate vendorId productId s with
  | (.ok devices, s) =>
    match keepAs with
    | some name => (.entries devices, { s with kept := (name, devices) :: s.kept })
    | none => (.entries devices, s)
  | (.error e, s) => (.failed e, s)

def list (name : String) (path : Option String) (s : Session S D) : Reply R :=
  match s.kept.lookup name with
  | some devices => .listing devices (path.bind fun path => devices.findPath? path)
  | none => .noList

def onHandle (name : String) (act : (slot : Nat) → Handle D → Session S D → α × Handle D × Session S D)
    (reply : α → Reply R) (s : Session S D) : Reply R × Session S D :=
  match s.slotOf? name with
  | none => (.noHandle, s)
  | some slot =>
    match s.handleAt? slot with
    | none => (.noHandle, s)
    | some h =>
      let (r, h, s) := act slot h s
      (reply r, s.putHandle slot h)

def ofHandle (name : String) (reply : Handle D → Reply R) (s : Session S D) : Reply R × Session S D :=
  onHandle name (fun _ h s => (reply h, h, s)) (fun r => r) s

def readWhile (b : Bench S D A R) (name : String) (length : Nat) (timeout : Option Duration)
    (after : Duration) (others : Session S D → List (Reply R) × Session S D) (s : Session S D) :
    Reply R × Session S D :=
  match s.slotOf? name with
  | none => (.noHandle, s)
  | some slot =>
    let (replies, t) := others (pass b.backend after (s.call slot length timeout))
    let (ended, t) := join b.backend s.reads.length t
    let reply := Reply.ofRead .outcome ended
    (if (reply :: replies).any Reply.isUnanswerable then .unanswerable else .concurrent reply replies, t)

mutual

def step (b : Bench S D A R) : Step A → Session S D → Reply R × Session S D
  | .enumerate vendorId productId keepAs, s => enumerate b vendorId productId keepAs s
  | .list name path, s => (s.list name path, s)
  | .openIds name vendorId productId serial, s =>
    openWith b name (fun m => m.openIds vendorId productId serial) s
  | .openPath name path, s => openWith b name (fun m => m.openPath path) s
  | .setInterval interval, s => (.done, { s with interval })
  | .showManager, s => (.text (manager b s).shown, s)
  | .showKind, s => (.text b.backend.kind.name, s)
  | .read name length timeout, s =>
    onHandle name (fun slot => Handle.read (platform b.backend slot) patience length timeout)
      (Reply.ofRead .outcome) s
  | .readData name length, s =>
    onHandle name (fun slot => Handle.read (platform b.backend slot) patience length none)
      (Reply.ofRead fun o => .optionalBytes o.data?) s
  | .readWhile name length timeout after others, s =>
    readWhile b name length timeout after (fun s => steps b others s) s
  | .write name report, s =>
    onHandle name (fun slot => Handle.write (platform b.backend slot) report) (Reply.ofExcept .count) s
  | .sendFeature name report, s =>
    onHandle name (fun slot => Handle.sendFeature (platform b.backend slot) report) (Reply.ofExcept .count) s
  | .getFeature name id length, s =>
    onHandle name (fun slot => Handle.getFeature (platform b.backend slot) id length) (Reply.ofCall .bytes) s
  | .text name query, s =>
    onHandle name (fun slot => Handle.text (platform b.backend slot) query) (Reply.ofExcept .optionalText) s
  | .setBlocking name blocking, s =>
    onHandle name (fun _ => Handle.setBlocking (prompt b.backend) blocking) (Reply.ofExcept fun _ => .done) s
  | .close name, s =>
    onHandle name (fun slot => Handle.close (platform b.backend slot)) (Reply.ofExcept fun _ => .done) s
  | .drop name, s =>
    match s.slotOf? name with
    | some _ => (.done, forget b.backend name s)
    | none => (.noHandle, s)
  | .showState name, s => ofHandle name (fun h => .state h.path h.blocking h.closed) s
  | .showHandle name, s => ofHandle name (fun h => .text h.shown) s
  | .onBackend action, s =>
    let (r, state) := b.act action s.state
    let s := { s with state }
    (.onBackend r, if b.givesWay action then giveWay b.backend s else s)
  | .unknown name, s => ofHandle name (fun _ => .unknownStep) s

def steps (b : Bench S D A R) : List (Step A) → Session S D → List (Reply R) × Session S D
  | [], s => ([], s)
  | first :: rest, s =>
    let (reply, s) := step b first s
    if reply.isUnanswerable then ([reply], s)
    else
      let (replies, s) := steps b rest s
      (reply :: replies, s)

end

def run (b : Bench S D A R) (state : S) (all : List (Step A)) : List (Reply R) :=
  (steps b all { state }).1

end Session

end HidAccess
