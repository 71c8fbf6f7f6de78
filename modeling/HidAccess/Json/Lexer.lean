import HidAccess.Json.Value
import HidAccess.Text.Numeral
import HidAccess.Text.Utf16

/-!
# Reading JSON tokens

Tokens stand between blanks (space, tab, line feed, carriage return). A number has no leading zero, and
digits on both sides of its point; a string holds no control character below U+0020 and only the escapes
of the format.
-/

namespace HidAccess.Json

def isBlank (c : Char) : Bool := c == ' ' || c == '\n' || c == '\t' || c == '\r'

def hexUnit? (a b c d : Char) : Option Nat := Text.Numeral.digits? 16 [a, b, c, d]

def letterEscape? : Char → Option Char
  | '"' => some '"'
  | '\\' => some '\\'
  | '/' => some '/'
  | 'b' => some '\x08'
  | 'f' => some '\x0c'
  | 'n' => some '\n'
  | 'r' => some '\r'
  | 't' => some '\t'
  | _ => none

def stringUnits? : List Char → Option (List Nat × List Char)
  | [] => none
  | '"' :: rest => some ([], rest)
  | '\\' :: 'u' :: a :: b :: c :: d :: rest => do
    let unit ← hexUnit? a b c d
    let (units, rest) ← stringUnits? rest
    return (unit :: units, rest)
  | '\\' :: e :: rest => do
    let c ← letterEscape? e
    let (units, rest) ← stringUnits? rest
    return (Text.Utf16.encodeChar c ++ units, rest)
  | c :: rest =>
    if c == '\\' || decide (c.toNat < 0x20) then none
    else do
      let (units, rest) ← stringUnits? rest
      return (Text.Utf16.encodeChar c ++ units, rest)

def digits (cs : List Char) : List Char × List Char := cs.span Char.isDigit

def fraction? : List Char → Option (Bool × List Char)
  | '.' :: cs =>
    match digits cs with
    | ([], _) => none
    | (_, rest) => some (true, rest)
  | cs => some (false, cs)

def dropSign : List Char → List Char
  | '+' :: cs => cs
  | '-' :: cs => cs
  | cs => cs

def exponent? (cs : List Char) : Option (Bool × List Char) :=
  match cs with
  | c :: rest =>
    if c == 'e' || c == 'E' then
      match digits (dropSign rest) with
      | ([], _) => none
      | (_, rest) => some (true, rest)
    else some (false, cs)
  | [] => some (false, [])

def unsigned? (negative : Bool) (cs : List Char) : Option (Number × List Char) := do
  let (whole, rest) := digits cs
  let value ← Text.Numeral.digits? 10 whole
  if whole.head? = some '0' ∧ 1 < whole.length then none
  let (hasFraction, rest) ← fraction? rest
  let (hasExponent, rest) ← exponent? rest
  return (⟨negative, value, !hasFraction && !hasExponent⟩, rest)

def number? : List Char → Option (Number × List Char)
  | '-' :: cs => unsigned? true cs
  | cs => unsigned? false cs

def token? : List Char → Option (Token × List Char)
  | '[' :: cs => some (.openArray, cs)
  | ']' :: cs => some (.closeArray, cs)
  | '{' :: cs => some (.openObject, cs)
  | '}' :: cs => some (.closeObject, cs)
  | ',' :: cs => some (.comma, cs)
  | ':' :: cs => some (.colon, cs)
  | '"' :: cs => do
    let (units, rest) ← stringUnits? cs
    return (.string (Text.Utf16.decode? units), rest)
  | 'n' :: 'u' :: 'l' :: 'l' :: cs => some (.null, cs)
  | 't' :: 'r' :: 'u' :: 'e' :: cs => some (.bool true, cs)
  | 'f' :: 'a' :: 'l' :: 's' :: 'e' :: cs => some (.bool false, cs)
  | cs => do
    let (n, rest) ← number? cs
    return (.number n, rest)

/-- All tokens of a text. Every token takes at least one character, so the text's length is enough fuel. -/
def tokensWithin : (fuel : Nat) → List Char → Option (List Token)
  | _, [] => some []
  | 0, _ => none
  | fuel + 1, c :: cs =>
    if isBlank c then tokensWithin fuel cs
    else do
      let (t, rest) ← token? (c :: cs)
      let ts ← tokensWithin fuel rest
      return t :: ts

def tokens? (s : String) : Option (List Token) :=
  let cs := s.toList
  tokensWithin cs.length cs

end HidAccess.Json
