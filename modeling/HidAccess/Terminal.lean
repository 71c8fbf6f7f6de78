import HidAccess.Clocked
import HidAccess.Command

/-!
# Terminals

Where commands run: a world with a clock, the text printed so far, the stop flag, and perhaps an interrupt
that comes some time after the handler for it was installed.
-/

namespace HidAccess

structure Terminal (S : Type) where
  world : Clocked S
  /-- The printed texts, newest first. -/
  printed : List String := []
  stop : Bool := false
  /-- How long after the installation of the handler an interrupt comes, if one comes. -/
  interruptAfter : Option Duration := none

namespace Terminal

variable {S D : Type}

def patience : Nat := 1000000

def text (t : Terminal S) : String := String.join t.printed.reverse

def print (s : String) (t : Terminal S) : Terminal S := { t with printed := s :: t.printed }

def backendOf (b : Backend S D Arrival) : Backend (Terminal S) D Received :=
  b.clocked.lift Terminal.world fun t world => { t with world }

def now (t : Terminal S) : Instant × Terminal S := (t.world.now, t)

def platform (b : Backend S D Arrival) : Platform (Terminal S) D := (backendOf b).toDeviceCalls.alone now

def interrupt (b : Backend S D Arrival) (h : Handle D) (t : Terminal S) : Handle D × Terminal S :=
  if t.world.isDue then
    let (_, h, t) := h.close (platform b) { t with world := { t.world with due := none }, stop := true }
    (h, t)
  else (h, t)

def installHandler (t : Terminal S) : Terminal S :=
  { t with world := { t.world with due := t.interruptAfter.map (t.world.now + ·) } }

/-- Even a pause of no length takes a moment. -/
def sleep (d : Duration) (t : Terminal S) : Terminal S :=
  { t with world := t.world.wait (max d (Duration.micros 10)) }

def console (b : Backend S D Arrival) : Console (Terminal S) D where
  toPlatform := { platform b with meanwhile := interrupt b, acquire := interrupt b }
  print
  stopped t := t.stop
  installHandler
  sleep

def manager (b : Backend S D Arrival) (interval : Duration) : Manager (Terminal S) D where
  backend := backendOf b
  interval

end Terminal

inductive Task where
  | list (vendorId productId : UInt16) (json : Bool)
  | info (target : Target)
  | read (q : ReadRequest)
  | poll (q : PollRequest)
  deriving Repr

def Task.run {S D : Type} (b : Backend S D Arrival) (interval : Duration) (task : Task) (t : Terminal S) :
    Ending (Terminal S) Failure :=
  let c := Terminal.console b
  let m := Terminal.manager b interval
  let ended (r : Except Failure Unit × Terminal S) : Ending (Terminal S) Failure := (some r.1, r.2)
  match task with
  | .list vendorId productId json => ended (Command.list c m vendorId productId json t)
  | .info target => ended (Command.info c m target t)
  | .read q => Command.read c m Terminal.patience Terminal.patience q t
  | .poll q => Command.poll c m Terminal.patience Terminal.patience q t

end HidAccess
