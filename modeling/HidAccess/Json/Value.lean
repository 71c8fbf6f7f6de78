/-!
# JSON values

A value keeps what readers of fields ask for: entries in order with repeated keys, whether a number was
written as a plain integer, and whether a string is a text at all. A string with an escape for a
surrogate that stands alone is no text, which matters only to who needs the text.
-/

namespace HidAccess.Json

/-- The text of a string, or nothing when it names a lone surrogate. -/
abbrev StringText := Option String

/-- A number: its sign, its whole part, and whether neither fraction nor exponent followed. -/
structure Number where
  negative : Bool
  whole : Nat
  integral : Bool
  deriving DecidableEq, Repr

/-- The integer that was written; `-0` is not one. -/
def Number.int? (n : Number) : Option Int :=
  if !n.integral then none
  else if n.negative then (if n.whole = 0 then none else some (-(n.whole : Int)))
  else some (n.whole : Int)

def Number.ofInt (i : Int) : Number := ⟨decide (i < 0), i.natAbs, true⟩

inductive Value where
  | null
  | bool (b : Bool)
  | number (n : Number)
  | string (s : StringText)
  | array (items : List Value)
  | object (entries : List (StringText × Value))
  deriving Repr, Inhabited

inductive Token where
  | openArray
  | closeArray
  | openObject
  | closeObject
  | comma
  | colon
  | null
  | bool (b : Bool)
  | number (n : Number)
  | string (s : StringText)
  deriving DecidableEq, Repr

mutual

def Value.tokens : Value → List Token
  | .null => [.null]
  | .bool b => [.bool b]
  | .number n => [.number n]
  | .string s => [.string s]
  | .array items => .openArray :: (itemTokens items ++ [.closeArray])
  | .object entries => .openObject :: (entryTokens entries ++ [.closeObject])

def itemTokens : List Value → List Token
  | [] => []
  | [v] => v.tokens
  | v :: rest => v.tokens ++ .comma :: itemTokens rest

def entryTokens : List (StringText × Value) → List Token
  | [] => []
  | [(k, v)] => .string k :: .colon :: v.tokens
  | (k, v) :: rest => .string k :: .colon :: (v.tokens ++ .comma :: entryTokens rest)

end

end HidAccess.Json
