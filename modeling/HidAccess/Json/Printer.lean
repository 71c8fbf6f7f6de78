import HidAccess.Json.Value

/-!
# Printing JSON

The compact form has no blanks. The indented form puts every item and entry on a line of its own, two
spaces deeper than what holds it; an empty array or object stays on its line. Strings escape the quote,
the backslash and the control characters below U+0020, and nothing else.
-/

namespace HidAccess.Json

def hexDigits (n : Nat) : List Char := [Nat.digitChar (n / 16), Nat.digitChar (n % 16)]

def escapeChar (c : Char) : List Char :=
  if c = '"' then ['\\', '"']
  else if c = '\\' then ['\\', '\\']
  else if c = '\x08' then ['\\', 'b']
  else if c = '\x0c' then ['\\', 'f']
  else if c = '\n' then ['\\', 'n']
  else if c = '\r' then ['\\', 'r']
  else if c = '\t' then ['\\', 't']
  else if c.toNat < 0x20 then '\\' :: 'u' :: '0' :: '0' :: hexDigits c.toNat
  else [c]

/-- A string between quotes; one that is no text is written as a lone surrogate. -/
def stringChars : StringText → List Char
  | some s => '"' :: (s.toList.flatMap escapeChar ++ ['"'])
  | none => "\"\\ud800\"".toList

def numberChars (n : Number) : List Char :=
  (if n.negative then ['-'] else []) ++ Nat.toDigits 10 n.whole ++ (if n.integral then [] else ['.', '0'])

def Token.chars : Token → List Char
  | .openArray => ['[']
  | .closeArray => [']']
  | .openObject => ['{']
  | .closeObject => ['}']
  | .comma => [',']
  | .colon => [':']
  | .null => "null".toList
  | .bool true => "true".toList
  | .bool false => "false".toList
  | .number n => numberChars n
  | .string s => stringChars s

def Value.compact (v : Value) : String := String.ofList (v.tokens.flatMap Token.chars)

def breakLine (depth : Nat) : List Char := '\n' :: List.replicate (2 * depth) ' '

mutual

def Value.indentedChars (depth : Nat) : Value → List Char
  | .array [] => ['[', ']']
  | .object [] => ['{', '}']
  | .array items => '[' :: (itemChars (depth + 1) items ++ breakLine depth ++ [']'])
  | .object entries => '{' :: (entryChars (depth + 1) entries ++ breakLine depth ++ ['}'])
  | .null => Token.null.chars
  | .bool b => (Token.bool b).chars
  | .number n => numberChars n
  | .string s => stringChars s

def itemChars (depth : Nat) : List Value → List Char
  | [] => []
  | [v] => breakLine depth ++ v.indentedChars depth
  | v :: rest => breakLine depth ++ v.indentedChars depth ++ ',' :: itemChars depth rest

def entryChars (depth : Nat) : List (StringText × Value) → List Char
  | [] => []
  | [(k, v)] => breakLine depth ++ stringChars k ++ ':' :: ' ' :: v.indentedChars depth
  | (k, v) :: rest =>
    breakLine depth ++ stringChars k ++ ':' :: ' ' :: v.indentedChars depth ++ ',' :: entryChars depth rest

end

def Value.indented (v : Value) : String := String.ofList (v.indentedChars 0)

end HidAccess.Json
