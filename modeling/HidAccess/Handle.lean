import HidAccess.Device
import HidAccess.Handle.Crash

/-!
# Device handles

A handle is one user's hold on an open device. It is open until it is closed or dropped, once, and then
the device is released. A call that reports the device as gone releases it at once; the handle then acts
as closed, but its own close still succeeds.

One operation at a time uses the device. Before an operation looks at the handle, and while it waits for its
turn at the device, the rest of the program may act (`Platform.meanwhile`, `Platform.acquire`): another thread
may close the handle or change the world at these points and at no others.
-/

namespace HidAccess

structure Handle (D : Type) where
  path : String
  device : Option D
  /-- The longest wait of a single device read. -/
  interval : Duration
  closed : Bool := false
  blocking : Bool := true
  deriving Repr

/-- The calls of the devices, a clock, and what else goes on beside the operations of one handle. -/
structure Platform (W D : Type) extends DeviceCalls W D Received where
  now : W → Instant × W
  /-- What others do before an operation looks at the handle. -/
  meanwhile : Handle D → W → Handle D × W
  /-- What others do until it is the operation's turn at the device. -/
  acquire : Handle D → W → Handle D × W

def DeviceCalls.alone (c : DeviceCalls W D Received) (now : W → Instant × W) : Platform W D :=
  { c with now, meanwhile := fun h w => (h, w), acquire := fun h w => (h, w) }

namespace Handle

variable {W D α : Type}

def maxInterval : Duration := Duration.millis 100

/-- A handle on a device just opened: blocking, with the interval brought between 1 and 100 ms. -/
def opened (path : String) (device : D) (interval : Duration) : Handle D where
  path
  device := some device
  interval := Duration.clamp (Duration.millis 1) maxInterval interval

def ensureOpen (h : Handle D) : Except AccessError Unit :=
  if h.closed then .error .handleClosed else .ok ()

def releaseDevice (p : Platform W D) (h : Handle D) (w : W) : W :=
  match h.device with
  | some d => p.release d w
  | none => w

def retire (p : Platform W D) (h : Handle D) (w : W) : Handle D × W :=
  ({ h with device := none }, h.releaseDevice p w)

def withDevice (p : Platform W D) (call : D → W → Outcome W α) (h : Handle D) (w : W) :
    Except AccessError α × Handle D × W :=
  let (h, w) := p.acquire h w
  if h.closed then (.error .handleClosed, h, w)
  else match h.device with
    | none => (.error .handleClosed, h, w)
    | some d =>
      match call d w with
      | (.ok a, w) => (.ok a, h, w)
      | (.error e, w) => (.error e, if e.isDisconnect then h.retire p w else (h, w))

def refusing (refusal : Option AccessError) (act : Handle D → W → Except AccessError α × Handle D × W)
    (h : Handle D) (w : W) : Except AccessError α × Handle D × W :=
  match refusal with
  | some e => (.error e, h, w)
  | none => act h w

def refuseEmpty (data : Bytes) (text : String) : Option AccessError :=
  if data.isEmpty then some (.validation text) else none

def oversized (size limit : Nat) : AccessError :=
  .validation ("report of " ++ toString size ++ " bytes exceeds the fixed output report size of "
    ++ toString limit)

def writeDevice (p : Platform W D) (data : Bytes) (d : D) (w : W) : Outcome W Nat :=
  match p.outputLimit d w with
  | (some limit, w) => if limit < data.length then (.error (oversized data.length limit), w) else p.write d data w
  | (none, w) => p.write d data w

def write (p : Platform W D) (data : Bytes) (h : Handle D) (w : W) :
    Except AccessError Nat × Handle D × W :=
  refusing (refuseEmpty data "write buffer is empty") (withDevice p (writeDevice p data)) h w

def sendFeature (p : Platform W D) (data : Bytes) (h : Handle D) (w : W) :
    Except AccessError Nat × Handle D × W :=
  refusing (refuseEmpty data "feature report is empty") (withDevice p fun d w => p.sendFeature d data w) h w

def featureBuffer (id : UInt8) (length : Nat) : Bytes := id :: List.replicate (length - 1) 0

/-- The buffer is made before the handle is looked at. -/
def getFeature (p : Platform W D) (id : UInt8) (length : Nat) (h : Handle D) (w : W) :
    CallResult Bytes × Handle D × W :=
  if length = 0 then (.returned (.error (.validation "feature report length must be non-zero")), h, w)
  else match bufferCrash? length with
    | some crash => (.crashed crash, h, w)
    | none =>
      let (r, h, w) := withDevice p (fun d w => p.getFeature d (featureBuffer id length) w) h w
      (.returned (r.map Received.report), h, w)

def text (p : Platform W D) (query : StringQuery) (h : Handle D) (w : W) :
    Except AccessError (Option String) × Handle D × W :=
  withDevice p (fun d w => p.text d query w) h w

def setBlocking (p : Platform W D) (blocking : Bool) (h : Handle D) (w : W) :
    Except AccessError Unit × Handle D × W :=
  let (h, w) := p.meanwhile h w
  match h.ensureOpen with
  | .ok () => (.ok (), { h with blocking }, w)
  | .error e => (.error e, h, w)

/-- Only the first close succeeds. -/
def close (p : Platform W D) (h : Handle D) (w : W) : Except AccessError Unit × Handle D × W :=
  let (h, w) := p.acquire h w
  match h.ensureOpen with
  | .ok () => (.ok (), { h with closed := true, device := none }, h.releaseDevice p w)
  | .error e => (.error e, h, w)

def drop (p : Platform W D) (h : Handle D) (w : W) : Handle D × W :=
  ({ h with closed := true, device := none }, h.releaseDevice p w)

def shown (h : Handle D) : String :=
  "HidDevice \x7b path: " ++ Text.quoted h.path ++ ", blocking: " ++ toString h.blocking ++ ", closed: "
    ++ toString h.closed ++ " \x7d"

end Handle

end HidAccess
