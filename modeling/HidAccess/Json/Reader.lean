import HidAccess.Json.Lexer

/-!
# Reading JSON values

Values are built by one pass over the tokens with the open arrays and objects on a stack, so that a
value may be nested to any depth. `read?` accepts a text that is exactly one value.
-/

namespace HidAccess.Json

/-- What an open array or object holds so far, the latest first. -/
inductive Frame where
  | array (items : List Value)
  | object (entries : List (StringText × Value))
  /-- An object whose next entry has its key. -/
  | member (entries : List (StringText × Value)) (key : StringText)

inductive ReadState where
  | value (stack : List Frame)
  /-- The first item of an array, or its end. -/
  | firstItem (stack : List Frame)
  /-- The first key of an object, or its end. -/
  | firstKey (stack : List Frame)
  | key (stack : List Frame)
  | colon (stack : List Frame)
  /-- A comma, or the end of the innermost array or object. -/
  | next (stack : List Frame)
  | complete (v : Value)

def deliver (v : Value) : List Frame → Option ReadState
  | [] => some (.complete v)
  | .array items :: stack => some (.next (.array (v :: items) :: stack))
  | .member entries key :: stack => some (.next (.object ((key, v) :: entries) :: stack))
  | .object _ :: _ => none

def startValue (stack : List Frame) : Token → Option ReadState
  | .openArray => some (.firstItem (.array [] :: stack))
  | .openObject => some (.firstKey (.object [] :: stack))
  | .null => deliver .null stack
  | .bool b => deliver (.bool b) stack
  | .number n => deliver (.number n) stack
  | .string s => deliver (.string s) stack
  | .closeArray | .closeObject | .comma | .colon => none

def closeFrame (t : Token) : List Frame → Option ReadState
  | .array items :: stack => if t = .closeArray then deliver (.array items.reverse) stack else none
  | .object entries :: stack => if t = .closeObject then deliver (.object entries.reverse) stack else none
  | .member _ _ :: _ | [] => none

def takeKey (t : Token) : List Frame → Option ReadState
  | .object entries :: stack =>
    match t with
    | .string k => some (.colon (.member entries k :: stack))
    | _ => none
  | _ => none

def step (state : ReadState) (t : Token) : Option ReadState :=
  match state with
  | .value stack => startValue stack t
  | .firstItem stack => if t = .closeArray then closeFrame t stack else startValue stack t
  | .firstKey stack => if t = .closeObject then closeFrame t stack else takeKey t stack
  | .key stack => takeKey t stack
  | .colon stack => if t = .colon then some (.value stack) else none
  | .next stack =>
    if t = .comma then
      match stack with
      | .array _ :: _ => some (.value stack)
      | .object _ :: _ => some (.key stack)
      | _ => none
    else closeFrame t stack
  | .complete _ => none

def run (state : ReadState) : List Token → Option ReadState
  | [] => some state
  | t :: ts =>
    match step state t with
    | some state => run state ts
    | none => none

def ofTokens? (ts : List Token) : Option Value :=
  match run (.value []) ts with
  | some (.complete v) => some v
  | _ => none

def read? (s : String) : Option Value := (tokens? s).bind ofTokens?

end HidAccess.Json
