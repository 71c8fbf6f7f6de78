import HidAccess.Toml.Text
import HidAccess.Toml.Value

/-!
# Numbers, dates and times of TOML

Digits may have single underscores between them. An integer is decimal with an optional sign and no
leading zero, or hexadecimal, octal or binary without a sign, and fits 64 bits. A float has a fraction,
an exponent or both, or is one of the two special names. Dates exist in the calendar.
-/

namespace HidAccess.Toml

def isDigit (radix : Nat) (c : Char) : Bool := (Text.Numeral.digit? radix c).isSome

def moreDigits (radix : Nat) : List Char → List Char × List Char
  | '_' :: c :: cs => if isDigit radix c then push c (moreDigits radix cs) else ([], '_' :: c :: cs)
  | c :: cs => if isDigit radix c then push c (moreDigits radix cs) else ([], c :: cs)
  | [] => ([], [])

def digits? (radix : Nat) : List Char → Option (List Char × List Char)
  | c :: cs => if isDigit radix c then some (push c (moreDigits radix cs)) else none
  | [] => none

def decimal? : List Char → Option (List Char × List Char)
  | '0' :: cs => some (['0'], cs)
  | cs => digits? 10 cs

def sign : List Char → Bool × List Char
  | '-' :: cs => (true, cs)
  | '+' :: cs => (false, cs)
  | cs => (false, cs)

def fits (i : Int) : Option Int := if minInteger ≤ i ∧ i ≤ maxInteger then some i else none

def radixInteger? (radix : Nat) (cs : List Char) : Option (Value × List Char) := do
  let (ds, rest) ← digits? radix cs
  let n ← Text.Numeral.digits? radix ds
  return (.integer (← fits n), rest)

def integer? : List Char → Option (Value × List Char)
  | '0' :: 'x' :: cs => radixInteger? 16 cs
  | '0' :: 'o' :: cs => radixInteger? 8 cs
  | '0' :: 'b' :: cs => radixInteger? 2 cs
  | cs => do
    let (negative, cs) := sign cs
    let (ds, rest) ← decimal? cs
    let n ← Text.Numeral.digits? 10 ds
    return (.integer (← fits (if negative then -(n : Int) else n)), rest)

def exponent? : List Char → Option (Int × List Char)
  | c :: cs => do
    if c != 'e' && c != 'E' then none
    let (negative, cs) := sign cs
    let (ds, rest) ← digits? 10 cs
    let n ← Text.Numeral.digits? 10 ds
    return (if negative then -(n : Int) else n, rest)
  | [] => none

def fraction? : List Char → Option (List Char × List Char)
  | '.' :: cs => digits? 10 cs
  | _ => none

/-- Whether `mantissa * 10 ^ exponent` is too large for a double: at least halfway from the greatest one
to the next power of two. -/
def overflows (mantissa : Nat) (exponent : Int) : Bool :=
  let bound := Nat.pow 2 1024 - Nat.pow 2 970
  if mantissa = 0 then false
  else if 0 ≤ exponent then decide (400 < exponent) || decide (bound ≤ mantissa * Nat.pow 10 exponent.toNat)
  else
    let scale := (-exponent).toNat
    let length := (Nat.toDigits 10 mantissa).length
    decide (scale ≤ length) && decide (bound * Nat.pow 10 scale ≤ mantissa)

def float? (cs : List Char) : Option (Value × List Char) :=
  let (negative, cs) := sign cs
  match cs with
  | 'i' :: 'n' :: 'f' :: rest => some (.float, rest)
  | 'n' :: 'a' :: 'n' :: rest => some (.float, rest)
  | _ => do
    let (whole, cs) ← decimal? cs
    let (part, cs, marked) := match fraction? cs with
      | some (ds, rest) => (ds, rest, true)
      | none => ([], cs, false)
    let (power, rest, marked) := match exponent? cs with
      | some (e, rest) => (e, rest, true)
      | none => (0, cs, marked)
    if !marked then none
    let mantissa ← Text.Numeral.digits? 10 (whole ++ part)
    if !negative && overflows mantissa (power - part.length) then none
    return (.float, rest)

def twoDigits? (lo hi : Nat) : List Char → Option (Nat × List Char)
  | a :: b :: cs => do
    let n ← Text.Numeral.digits? 10 [a, b]
    if lo ≤ n ∧ n ≤ hi then some (n, cs) else none
  | _ => none

def isLeapYear (year : Nat) : Bool := year % 4 == 0 && (year % 100 != 0 || year % 400 == 0)

def daysIn (year month : Nat) : Nat :=
  if month = 2 then (if isLeapYear year then 29 else 28)
  else if month = 4 ∨ month = 6 ∨ month = 9 ∨ month = 11 then 30
  else 31

def date? : List Char → Option (List Char)
  | a :: b :: c :: d :: '-' :: cs => do
    let year ← Text.Numeral.digits? 10 [a, b, c, d]
    let (month, cs) ← twoDigits? 1 12 cs
    match cs with
    | '-' :: cs => do
      let (_, cs) ← twoDigits? 1 (daysIn year month) cs
      return cs
    | _ => none
  | _ => none

def secondFraction? : List Char → Option (List Char)
  | '.' :: cs => if cs.head?.any Char.isDigit then some (cs.dropWhile Char.isDigit) else none
  | cs => some cs

def time? (cs : List Char) : Option (List Char) := do
  let (_, cs) ← twoDigits? 0 23 cs
  match cs with
  | ':' :: cs => do
    let (_, cs) ← twoDigits? 0 59 cs
    match cs with
    | ':' :: cs => do
      let (_, cs) ← twoDigits? 0 60 cs
      return (secondFraction? cs).getD cs
    | _ => none
  | _ => none

def skipOffset : List Char → List Char
  | 'Z' :: cs => cs
  | 'z' :: cs => cs
  | c :: cs =>
    if c == '+' || c == '-' then
      match twoDigits? 0 23 cs with
      | some (_, ':' :: rest) =>
        match twoDigits? 0 59 rest with
        | some (_, rest) => rest
        | none => c :: cs
      | _ => c :: cs
    else c :: cs
  | [] => []

def skipTime : List Char → List Char
  | c :: cs =>
    if c == 'T' || c == 't' || c == ' ' then
      match time? cs with
      | some rest => skipOffset rest
      | none => c :: cs
    else c :: cs
  | [] => []

def moment? (cs : List Char) : Option (Value × List Char) :=
  match date? cs with
  | some rest => some (.moment, skipTime rest)
  | none => (time? cs).map fun rest => (.moment, rest)

def boolean? : List Char → Option (Value × List Char)
  | 't' :: 'r' :: 'u' :: 'e' :: rest => some (.boolean true, rest)
  | 'f' :: 'a' :: 'l' :: 's' :: 'e' :: rest => some (.boolean false, rest)
  | _ => none

def scalarValue? (cs : List Char) : Option (Value × List Char) :=
  match string? cs with
  | some (s, rest) => some (.string (String.ofList s), rest)
  | none => moment? cs <|> float? cs <|> integer? cs <|> boolean? cs

end HidAccess.Toml
