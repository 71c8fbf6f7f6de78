/-!
# Wide-character texts

A text as a sequence of 32-bit numbers, one for each code point. A zero ends it. A number that is no code
point, or that is a surrogate, makes the sequence no text.
-/

namespace HidAccess.Text.Wide

def encode (s : String) : List Int := s.toList.map fun c => (c.toNat : Int)

def untilZero (units : List Int) : List Nat := (units.map fun u => (u % 4294967296).toNat).takeWhile (· != 0)

def char? (n : Nat) : Option Char :=
  if n.isValidChar then some (Char.ofNat n) else none

def decode? (units : List Int) : Option String := ((untilZero units).mapM char?).map String.ofList

end HidAccess.Text.Wide
