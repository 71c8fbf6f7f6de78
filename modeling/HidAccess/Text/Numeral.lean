/-!
# Numerals

Reading and writing of unsigned numbers in positional notation. A numeral is one or more digits of its
radix, letters in either case, after an optional plus sign; any number of leading zeros is allowed and
the value has an upper bound.
-/

namespace HidAccess.Text.Numeral

def max32 : Nat := 4294967295
def max64 : Nat := 18446744073709551615

def digit? (radix : Nat) (c : Char) : Option Nat :=
  let value? :=
    if '0' ≤ c ∧ c ≤ '9' then some (c.toNat - '0'.toNat)
    else if 'a' ≤ c ∧ c ≤ 'z' then some (c.toNat - 'a'.toNat + 10)
    else if 'A' ≤ c ∧ c ≤ 'Z' then some (c.toNat - 'A'.toNat + 10)
    else none
  value?.filter fun v => decide (v < radix)

def continue? (radix : Nat) : Nat → List Char → Option Nat
  | value, [] => some value
  | value, c :: cs =>
    match digit? radix c with
    | some d => continue? radix (value * radix + d) cs
    | none => none

def digits? (radix : Nat) : List Char → Option Nat
  | [] => none
  | cs => continue? radix 0 cs

def dropPlus : List Char → List Char
  | '+' :: cs => cs
  | cs => cs

def read? (radix limit : Nat) (cs : List Char) : Option Nat :=
  (digits? radix (dropPlus cs)).filter fun v => decide (v ≤ limit)

def hex (width n : Nat) : String :=
  let digits := Nat.toDigits 16 n
  String.ofList (List.replicate (width - digits.length) '0' ++ digits)

def decimal (width n : Nat) : String :=
  let digits := Nat.toDigits 10 n
  String.ofList (List.replicate (width - digits.length) '0' ++ digits)

end HidAccess.Text.Numeral
