import HidAccess.AccessError
import HidAccess.Bytes

/-!
# Reports on the wire

The first byte of a report is its id. A device without numbered reports has the id 0, which is not sent.
An output report that goes through an interrupt endpoint must fit into one packet.
-/

namespace HidAccess.UsbReport

def emptyReport : AccessError := .validation "report buffer is empty"

def firstByte : Bytes → Except AccessError UInt8
  | [] => .error emptyReport
  | id :: _ => .ok id

/-- The bytes that are sent: all but an id of 0. -/
def wire : Bytes → Bytes
  | [] => []
  | id :: rest => if id = 0 then rest else id :: rest

def tooLong (size : Nat) (maxPacket : UInt16) : AccessError :=
  .validation ("report of " ++ toString size ++ " bytes does not fit the " ++ toString maxPacket.toNat
    ++ "-byte output endpoint")

def payload (report : Bytes) (maxPacket : Option UInt16) : Except AccessError Bytes :=
  match firstByte report with
  | .error e => .error e
  | .ok _ =>
    match maxPacket with
    | none => .ok (wire report)
    | some limit =>
      if limit.toNat < (wire report).length then .error (tooLong report.length limit) else .ok (wire report)

end HidAccess.UsbReport
