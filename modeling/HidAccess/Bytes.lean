import HidAccess.Text.Blank
import HidAccess.Text.Numeral
import HidAccess.Text.Split

/-!
# Bytes and their hexadecimal texts

A report is a list of bytes. It is shown as pairs of lower-case digits with a space between the bytes.
The reader takes digits in either case, in tokens between blanks, commas and colons, each with an
optional `0x` in front.
-/

namespace HidAccess

abbrev Bytes := List UInt8

namespace Bytes

def hexByte (b : UInt8) : List Char :=
  [Nat.digitChar (b.toNat / 16), Nat.digitChar (b.toNat % 16)]

def hex (bs : Bytes) : String := String.ofList (bs.flatMap hexByte)

def spacedChars : Bytes → List Char
  | [] => []
  | [b] => hexByte b
  | b :: bs => hexByte b ++ ' ' :: spacedChars bs

def spaced (bs : Bytes) : String := String.ofList (spacedChars bs)

def isSeparator (c : Char) : Bool := Text.isBlank c || c == ',' || c == ':'

def joinedDigits (cs : List Char) : List Char :=
  (Text.splitBy isSeparator cs).flatMap (Text.dropStarts ['0', 'x'])

def ofDigits? : List Char → Option Bytes
  | [] => some []
  | [_] => none
  | hi :: lo :: rest => do
    let h ← Text.Numeral.digit? 16 hi
    let l ← Text.Numeral.digit? 16 lo
    let bytes ← ofDigits? rest
    return UInt8.ofNat (16 * h + l) :: bytes

def read? (s : String) : Option Bytes :=
  match joinedDigits s.toList with
  | [] => none
  | digits => ofDigits? digits

def readError (s : String) : String := "`" ++ s ++ "` is not a sequence of hex bytes"

end Bytes

end HidAccess
