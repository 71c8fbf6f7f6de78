/-!
# Release numbers

A device states its release in binary-coded decimal: four digits of four bits. The release is held as a
major number of two digits and two minor numbers of one digit each, and encoded again for the listing.
-/

namespace HidAccess

structure UsbRelease where
  major : UInt8
  minor : UInt8
  subMinor : UInt8
  deriving DecidableEq, Repr

namespace UsbRelease

def ofBcd (bcd : UInt16) : UsbRelease where
  major := (10 : UInt8) * ((bcd >>> 12) &&& 0xF).toUInt8 + ((bcd >>> 8) &&& 0xF).toUInt8
  minor := ((bcd >>> 4) &&& 0xF).toUInt8
  subMinor := (bcd &&& 0xF).toUInt8

/-- The digits of the major number go to the two high places. -/
def toBcd (r : UsbRelease) : UInt16 :=
  let major := r.major.toUInt16
  ((major / 10) <<< 12) ||| ((major % 10) <<< 8) ||| (r.minor.toUInt16 <<< 4) ||| r.subMinor.toUInt16

end UsbRelease

end HidAccess
