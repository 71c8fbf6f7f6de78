import HidAccess.Config.Basic
import HidAccess.Usb.Backend

/-!
# Starting a backend

A backend can be started when the build contains its kind. The USB library may fail to come up.
-/

namespace HidAccess

def Build.start (build : Build) (usbFailure : Option UsbError) (k : BackendKind) :
    Except AccessError BackendKind :=
  if build.contains k then
    match k, usbFailure with
    | .libusb, some e => .error (UsbBus.unlisted e)
    | _, _ => .ok k
  else .error (Build.missing k)

def Config.start (build : Build) (usbFailure : Option UsbError) (c : Config) : Except AccessError BackendKind :=
  match c.validate build with
  | .error e => .error e
  | .ok () => build.start usbFailure (c.chosenKind build)

end HidAccess
