/-!
# UTF-16

Texts as 16-bit units. A code point above U+FFFF is a pair of surrogates; a surrogate that stands alone
makes the units no text.
-/

namespace HidAccess.Text.Utf16

def encodeChar (c : Char) : List Nat :=
  if c.toNat < 0x10000 then [c.toNat]
  else
    let offset := c.toNat - 0x10000
    [0xD800 + offset / 0x400, 0xDC00 + offset % 0x400]

def encode (s : String) : List Nat := s.toList.flatMap encodeChar

def isHigh (u : Nat) : Bool := decide (0xD800 ≤ u) && decide (u < 0xDC00)
def isLow (u : Nat) : Bool := decide (0xDC00 ≤ u) && decide (u < 0xE000)

def joined (high low : Nat) : Char :=
  Char.ofNat (0x10000 + (high - 0xD800) * 0x400 + (low - 0xDC00))

def chars? : List Nat → Option (List Char)
  | [] => some []
  | [u] => if isHigh u || isLow u then none else some [Char.ofNat u]
  | u :: v :: rest =>
    if isHigh u then
      if isLow v then (chars? rest).map (joined u v :: ·) else none
    else if isLow u then none
    else (chars? (v :: rest)).map (Char.ofNat u :: ·)

def decode? (units : List Nat) : Option String := (chars? units).map String.ofList

end HidAccess.Text.Utf16
