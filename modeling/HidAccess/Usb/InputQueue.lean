import HidAccess.Device
import HidAccess.Usb.Error

/-!
# Queued input reports

A reader keeps one interrupt transfer going and queues what it brings. The queue is bounded: when it is
full, the oldest report makes room. Only the loss of the device ends the reader; every other failed
transfer changes nothing.
-/

namespace HidAccess

structure InputQueue where
  /-- Oldest first. -/
  reports : List Bytes := []
  disconnected : Bool := false
  deriving Repr

namespace InputQueue

def capacity : Nat := 30

def push (report : Bytes) (q : InputQueue) : InputQueue :=
  { q with reports := (if capacity ≤ q.reports.length then q.reports.drop 1 else q.reports) ++ [report] }

def complete (transfer : Except UsbError Bytes) (q : InputQueue) : InputQueue :=
  match transfer with
  | .ok report => q.push report
  | .error .noDevice => { q with disconnected := true }
  | .error _ => q

def lost : AccessError := .transfer "usb device was disconnected" true

/-- Takes the oldest report; without one, fails when the device is gone and brings nothing otherwise. -/
def take (buffer : Bytes) (q : InputQueue) : Except AccessError (Option Received) × InputQueue :=
  match q.reports with
  | report :: rest => (.ok (some (.fill buffer report)), { q with reports := rest })
  | [] => (if q.disconnected then .error lost else .ok none, q)

end InputQueue

end HidAccess
