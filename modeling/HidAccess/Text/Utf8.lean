import HidAccess.Bytes

/-!
# UTF-8

Octets as characters. Where octets form no character, the longest start of one that stands there is a
single invalid piece; the lossy text shows U+FFFD in its place and the strict text does not exist.
-/

namespace HidAccess.Text.Utf8

def encode (s : String) : Bytes := s.toUTF8.toList

/-- A character's lead octet: the bits it carries, how many octets follow, and the least and the
greatest of the first of them. -/
structure Lead where
  bits : Nat
  tail : Nat
  low : Nat
  high : Nat

def lead? (b : Nat) : Option Lead :=
  if b < 0x80 then some ⟨b, 0, 0, 0⟩
  else if b < 0xC2 then none
  else if b < 0xE0 then some ⟨b - 0xC0, 1, 0x80, 0xBF⟩
  else if b = 0xE0 then some ⟨0, 2, 0xA0, 0xBF⟩
  else if b = 0xED then some ⟨0xD, 2, 0x80, 0x9F⟩
  else if b < 0xF0 then some ⟨b - 0xE0, 2, 0x80, 0xBF⟩
  else if b = 0xF0 then some ⟨0, 3, 0x90, 0xBF⟩
  else if b < 0xF4 then some ⟨b - 0xF0, 3, 0x80, 0xBF⟩
  else if b = 0xF4 then some ⟨4, 3, 0x80, 0x8F⟩
  else none

def tail : (count low high value : Nat) → Bytes → Option Nat × Bytes
  | 0, _, _, value, bs => (some value, bs)
  | _ + 1, _, _, _, [] => (none, [])
  | count + 1, low, high, value, b :: bs =>
    if low ≤ b.toNat ∧ b.toNat ≤ high then
      tail count 0x80 0xBF (value * 64 + (b.toNat - 0x80)) bs
    else (none, b :: bs)

/-- The characters in order, with nothing for an invalid piece. -/
def pieces : (fuel : Nat) → Bytes → List (Option Char)
  | 0, _ => []
  | _ + 1, [] => []
  | fuel + 1, b :: bs =>
    match lead? b.toNat with
    | none => none :: pieces fuel bs
    | some l =>
      let (value?, rest) := tail l.tail l.low l.high l.bits bs
      value?.map Char.ofNat :: pieces fuel rest

def decodeLossy (bs : Bytes) : String :=
  String.ofList ((pieces bs.length bs).map fun c? => c?.getD '\uFFFD')

def decode? (bs : Bytes) : Option String :=
  ((pieces bs.length bs).mapM id).map String.ofList

end HidAccess.Text.Utf8
