import HidAccess.Text.Quoted

/-!
# Errors of device access

Every failing operation gives one of these. A transfer error says whether the device is gone: after
such an error the handle has no device any more.
-/

namespace HidAccess

inductive AccessError where
  | enumeration (text : String)
  | deviceNotFound (text : String)
  | accessDenied (text : String)
  | alreadyOpen (text : String)
  | handleClosed
  | transfer (text : String) (disconnected : Bool)
  | validation (text : String)
  | unsupported (text : String)
  | config (text : String)
  deriving DecidableEq, Repr, Inhabited

namespace AccessError

def isDisconnect : AccessError → Bool
  | .transfer _ disconnected => disconnected
  | _ => false

def message : AccessError → String
  | .enumeration t => "device enumeration failed: " ++ t
  | .deviceNotFound t => "device not found: " ++ t
  | .accessDenied t => "access denied: " ++ t
  | .alreadyOpen t => "device already open: " ++ t
  | .handleClosed => "handle is closed"
  | .transfer t _ => "transfer failed: " ++ t
  | .validation t => "invalid input: " ++ t
  | .unsupported t => "unsupported operation: " ++ t
  | .config t => "configuration error: " ++ t

def shownWith (name text : String) : String := name ++ "(" ++ Text.quoted text ++ ")"

def shown : AccessError → String
  | .enumeration t => shownWith "Enumeration" t
  | .deviceNotFound t => shownWith "DeviceNotFound" t
  | .accessDenied t => shownWith "AccessDenied" t
  | .alreadyOpen t => shownWith "AlreadyOpen" t
  | .handleClosed => "HandleClosed"
  | .transfer t disconnected =>
    "Transfer \x7b message: " ++ Text.quoted t ++ ", disconnected: " ++ toString disconnected ++ " \x7d"
  | .validation t => shownWith "Validation" t
  | .unsupported t => shownWith "Unsupported" t
  | .config t => shownWith "Config" t

end AccessError

end HidAccess
