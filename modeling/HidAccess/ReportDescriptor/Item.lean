import HidAccess.Bytes

/-!
# Report descriptor items

A report descriptor is a sequence of items. A short item is one byte with its tag and the size of its
data (0, 1, 2 or 4 bytes, least significant first), then the data. A long item starts with the byte 0xFE,
the size of its data and its tag. `Item.next?` takes one item off the front; it gives nothing when the
bytes end within the item.
-/

namespace HidAccess.ReportDescriptor

inductive Item where
  /-- The tag is the first byte without its two size bits. -/
  | short (tag : UInt8) (data : Bytes)
  | long (tag : UInt8) (data : Bytes)
  deriving DecidableEq, Repr

def longMark : UInt8 := 0xFE

def tagOf (first : UInt8) : UInt8 := first &&& 0xFC

/-- The data size that the low two bits of a short item's first byte stand for. -/
def sizeOf (first : UInt8) : Nat :=
  match (first &&& 0x03).toNat with
  | 0 => 0
  | 1 => 1
  | 2 => 2
  | _ => 4

def sizeBits (n : Nat) : UInt8 :=
  match n with
  | 0 => 0
  | 1 => 1
  | 2 => 2
  | _ => 3

def takeExactly (n : Nat) (bs : Bytes) : Option (Bytes × Bytes) :=
  if n ≤ bs.length then some (bs.take n, bs.drop n) else none

def Item.next? : Bytes → Option (Item × Bytes)
  | [] => none
  | first :: rest =>
    if first = longMark then
      match rest with
      | size :: tag :: rest => (takeExactly size.toNat rest).map fun (data, rest) => (.long tag data, rest)
      | _ => none
    else
      (takeExactly (sizeOf first) rest).map fun (data, rest) => (.short (tagOf first) data, rest)

def Item.encode : Item → Bytes
  | .short tag data => (tag ||| sizeBits data.length) :: data
  | .long tag data => longMark :: UInt8.ofNat data.length :: tag :: data

def number : Bytes → Nat
  | [] => 0
  | b :: bs => b.toNat + 256 * number bs

end HidAccess.ReportDescriptor
