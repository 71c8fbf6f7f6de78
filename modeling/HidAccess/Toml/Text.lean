import HidAccess.Text.Numeral

/-!
# Blanks, line ends and strings of TOML

A blank is a space or a tab. A line ends in a line feed with or without a carriage return before it, and
within a string over several lines it reads as a line feed. Of the control characters only the tab may
stand in a string or a comment.
-/

namespace HidAccess.Toml

def isBlank (c : Char) : Bool := c == ' ' || c == '\t'

def skipBlanks (cs : List Char) : List Char := cs.dropWhile isBlank

def lineBreak? : List Char → Option (List Char)
  | '\n' :: cs => some cs
  | '\r' :: '\n' :: cs => some cs
  | _ => none

/-- A character that stands for itself in a comment, and in a string unless it is a quote or the backslash. -/
def isPlainChar (c : Char) : Bool := c == '\t' || (decide (0x20 ≤ c.toNat) && c.toNat != 0x7F)

def skipComment : List Char → List Char
  | '#' :: cs => cs.dropWhile isPlainChar
  | cs => cs

def lineEnd? (cs : List Char) : Option (List Char) :=
  match skipComment (skipBlanks cs) with
  | [] => some []
  | rest => lineBreak? rest

def scalar? (n : Nat) : Option Char :=
  if n < 0xD800 ∨ (0xE000 ≤ n ∧ n < 0x110000) then some (Char.ofNat n) else none

def hexScalar? (digits : List Char) : Option Char := (Text.Numeral.digits? 16 digits).bind scalar?

def letterEscape? : Char → Option Char
  | 'b' => some '\x08'
  | 't' => some '\t'
  | 'n' => some '\n'
  | 'f' => some '\x0c'
  | 'r' => some '\r'
  | '"' => some '"'
  | '\\' => some '\\'
  | _ => none

def push (c : Char) (r : List Char × List Char) : List Char × List Char := (c :: r.1, r.2)

def basic? : List Char → Option (List Char × List Char)
  | [] => none
  | '"' :: rest => some ([], rest)
  | '\\' :: 'u' :: a :: b :: c :: d :: rest => do
    let x ← hexScalar? [a, b, c, d]
    return push x (← basic? rest)
  | '\\' :: 'U' :: a :: b :: c :: d :: e :: f :: g :: h :: rest => do
    let x ← hexScalar? [a, b, c, d, e, f, g, h]
    return push x (← basic? rest)
  | '\\' :: e :: rest => do
    let x ← letterEscape? e
    return push x (← basic? rest)
  | c :: rest => do
    if c == '\\' || !isPlainChar c then none
    return push c (← basic? rest)

def literal? : List Char → Option (List Char × List Char)
  | [] => none
  | '\'' :: rest => some ([], rest)
  | c :: rest => do
    if !isPlainChar c then none
    return push c (← literal? rest)

def atLineEnd (cs : List Char) : Bool := (lineBreak? (skipBlanks cs)).isSome

/-- The rest of a string between three double quotes. Up to two more quotes may stand before the closing
ones. After a backslash at the end of a line, `joining` drops blanks and line ends up to the next other
character. -/
def basicLines? : (joining : Bool) → List Char → Option (List Char × List Char)
  | _, [] => none
  | _, '"' :: '"' :: '"' :: '"' :: '"' :: rest => some (['"', '"'], rest)
  | _, '"' :: '"' :: '"' :: '"' :: rest => some (['"'], rest)
  | _, '"' :: '"' :: '"' :: rest => some ([], rest)
  | _, '"' :: rest => do return push '"' (← basicLines? false rest)
  | joining, '\r' :: '\n' :: rest =>
    if joining then basicLines? true rest else do return push '\n' (← basicLines? false rest)
  | joining, '\n' :: rest =>
    if joining then basicLines? true rest else do return push '\n' (← basicLines? false rest)
  | _, '\\' :: 'u' :: a :: b :: c :: d :: rest => do
    let x ← hexScalar? [a, b, c, d]
    return push x (← basicLines? false rest)
  | _, '\\' :: 'U' :: a :: b :: c :: d :: e :: f :: g :: h :: rest => do
    let x ← hexScalar? [a, b, c, d, e, f, g, h]
    return push x (← basicLines? false rest)
  | joining, c :: rest =>
    if c == '\\' then
      if atLineEnd rest then basicLines? true rest
      else match rest with
        | e :: rest => do
          let x ← letterEscape? e
          return push x (← basicLines? false rest)
        | [] => none
    else if joining && isBlank c then basicLines? true rest
    else if isPlainChar c then do return push c (← basicLines? false rest)
    else none

def literalLines? : List Char → Option (List Char × List Char)
  | [] => none
  | '\'' :: '\'' :: '\'' :: '\'' :: '\'' :: rest => some (['\'', '\''], rest)
  | '\'' :: '\'' :: '\'' :: '\'' :: rest => some (['\''], rest)
  | '\'' :: '\'' :: '\'' :: rest => some ([], rest)
  | '\r' :: '\n' :: rest => do return push '\n' (← literalLines? rest)
  | '\n' :: rest => do return push '\n' (← literalLines? rest)
  | c :: rest => do
    if !isPlainChar c then none
    return push c (← literalLines? rest)

/-- A line end just after the opening quotes does not count. -/
def dropLineBreak (cs : List Char) : List Char := (lineBreak? cs).getD cs

def string? : List Char → Option (List Char × List Char)
  | '"' :: '"' :: '"' :: rest => basicLines? false (dropLineBreak rest)
  | '"' :: rest => basic? rest
  | '\'' :: '\'' :: '\'' :: rest => literalLines? (dropLineBreak rest)
  | '\'' :: rest => literal? rest
  | _ => none

end HidAccess.Toml
