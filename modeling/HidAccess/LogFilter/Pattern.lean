import HidAccess.Text.Alphanumeric
import HidAccess.Text.Blank
import HidAccess.Text.Numeral

/-!
# Patterns for field values

A log filter may ask for a field whose value matches a pattern: characters and classes in brackets, groups
in parentheses, alternatives between bars, `*`, `+` and `?` after what they repeat. A pattern stands between
the braces of a field, so it has no closing brace, and counts, which need one, are malformed.

The tables of Unicode are not at hand: the classes `\d`, `\s` and `\w` and letters in either case need the
flag `u` turned off, and then only ASCII text is matched by them. A boundary of Unicode words is well-formed
but cannot be matched.
-/

namespace HidAccess.LogFilter

namespace Pattern

inductive Fault where
  | malformed
  | wordBoundary
  deriving DecidableEq, Repr

def Fault.text : Fault → String
  | .malformed => "error building NFA"
  | .wordBoundary =>
    "unsupported regex feature for DFAs: cannot build DFAs for regexes with Unicode word boundaries; "
      ++ "switch to ASCII word boundaries, or heuristically enable Unicode word boundaries or use a "
      ++ "different regex engine"

/-- The flags that decide what is well-formed. -/
structure Flags where
  ignoreCase : Bool := false
  unicode : Bool := true
  /-- Blanks, and comments from a `#` to the end of its line, are skipped. -/
  verbose : Bool := false
  deriving DecidableEq, Repr

def skipBlanks (inComment : Bool) : List Char → List Char
  | [] => []
  | c :: cs =>
    if inComment then skipBlanks (c != '\n') cs
    else if Text.isBlank c then skipBlanks false cs
    else if c = '#' then skipBlanks true cs
    else c :: cs

def Flags.skip (f : Flags) (cs : List Char) : List Char := if f.verbose then skipBlanks false cs else cs

/-- Letters after which matching needs tables that are not at hand. -/
def Flags.needsFolding (f : Flags) : Bool := f.unicode && f.ignoreCase

def isAscii (c : Char) : Bool := c.toNat < 128

/-- What one character or one escape stands for. -/
inductive Atom where
  /-- A character; `asByte` when it was written as two digits. -/
  | literal (c : Char) (asByte : Bool)
  /-- Digits, blanks or word characters, or all others. -/
  | shorthand (negated : Bool)
  | edge
  | wordBoundary
  deriving DecidableEq, Repr

def takeDigits? (f : Flags) : Nat → List Char → Option (List Char × List Char)
  | 0, cs => some ([], cs)
  | n + 1, cs =>
    match f.skip cs with
    | c :: cs => if (Text.Numeral.digit? 16 c).isSome then (takeDigits? f n cs).map fun r => (c :: r.1, r.2) else none
    | [] => none

def numbered? (f : Flags) (digits : Nat) (cs : List Char) : Option (Atom × List Char) := do
  let (ds, rest) ← takeDigits? f digits cs
  let n ← Text.Numeral.read? 16 0x10FFFF ds
  if n.isValidChar then some (.literal (Char.ofNat n) (digits == 2), rest) else none

def escape? (f : Flags) : List Char → Option (Atom × List Char)
  | [] => none
  | c :: cs =>
    match c with
    | 'x' => numbered? f 2 cs
    | 'u' => numbered? f 4 cs
    | 'U' => numbered? f 8 cs
    | 'd' | 's' | 'w' => some (.shorthand false, cs)
    | 'D' | 'S' | 'W' => some (.shorthand true, cs)
    | 'b' | 'B' | '<' | '>' => some (.wordBoundary, cs)
    | 'A' | 'z' => some (.edge, cs)
    | 'a' | 'f' | 't' | 'n' | 'r' | 'v' => some (.literal c false, cs)
    | _ => if isAscii c && !c.isAlphanum then some (.literal c false, cs) else none

def Atom.isSound (f : Flags) : Atom → Bool
  | .literal c asByte => if f.unicode then !f.ignoreCase else isAscii c || !(asByte || f.ignoreCase)
  | .shorthand negated => !f.unicode && !negated
  | .edge | .wordBoundary => true

def Atom.isMember (f : Flags) : Atom → Bool
  | .literal c _ => f.unicode || isAscii c
  | .shorthand negated => !f.unicode && !negated
  | .edge | .wordBoundary => false

def Atom.isRange (f : Flags) : Atom → Atom → Bool
  | .literal a x, .literal b y =>
    (Atom.literal a x).isMember f && (Atom.literal b y).isMember f && a.toNat ≤ b.toNat
  | _, _ => false

/-! ## Classes -/

def asciiClassNames : List String :=
  ["alnum", "alpha", "ascii", "blank", "cntrl", "digit", "graph", "lower", "print", "punct", "space",
    "upper", "word", "xdigit"]

def asciiClass? : List Char → Option (Bool × List Char)
  | ':' :: cs =>
    let negated := cs.head? == some '^'
    let cs := if negated then cs.tail else cs
    match cs.dropWhile (· != ':') with
    | ':' :: ']' :: rest =>
      if asciiClassNames.any fun name => name.toList == cs.takeWhile (· != ':') then some (negated, rest)
      else none
    | _ => none
  | _ => none

/-- Where a class stands: signs mean something else at its start. -/
inductive ClassPlace where
  | opened
  | negated
  | dashed
  | inside
  deriving DecidableEq, Repr

def member? (f : Flags) (c : Char) (cs : List Char) : Option (Atom × List Char) :=
  if c = '\\' then escape? f cs else some (.literal c false, cs)

def memberOrRange? (f : Flags) (c : Char) (cs : List Char) : Option (List Char) := do
  let (first, rest) ← member? f c cs
  match f.skip rest with
  | '-' :: after =>
    match f.skip after with
    | [] => none
    | d :: more =>
      if d = ']' ∨ d = '-' then (if first.isMember f then some ('-' :: after) else none)
      else
        let (last, rest) ← member? f d more
        if Atom.isRange f first last then some rest else none
  | rest => if first.isMember f then some rest else none

/-- What follows a class, of which `depth` are open around this one. Each step takes a character. -/
def afterClass? (f : Flags) : Nat → Nat → ClassPlace → List Char → Option (List Char)
  | 0, _, _, _ => none
  | steps + 1, depth, place, cs =>
    match f.skip cs with
    | [] => none
    | c :: cs =>
      if place = .opened ∧ c = '^' then (if f.unicode then afterClass? f steps depth .negated cs else none)
      else if place ≠ .inside ∧ c = '-' then afterClass? f steps depth .dashed cs
      else if (place = .opened ∨ place = .negated) ∧ c = ']' then afterClass? f steps depth .inside cs
      else if c = ']' then
        match depth with
        | 0 => some cs
        | depth + 1 => afterClass? f steps depth .inside cs
      else if c = '[' then
        match asciiClass? cs with
        | some (negated, rest) =>
          if negated && !f.unicode then none else afterClass? f steps depth .inside rest
        | none => afterClass? f steps (depth + 1) .opened cs
      else if (c = '&' ∨ c = '-' ∨ c = '~') ∧ cs.head? = some c then afterClass? f steps depth .inside cs.tail
      else
        match memberOrRange? f c cs with
        | some rest => afterClass? f steps depth .inside rest
        | none => none

def class? (f : Flags) (cs : List Char) : Option (List Char) :=
  if f.needsFolding then none else afterClass? f (cs.length + 1) 0 .opened cs

/-! ## Groups -/

def isNameStart (c : Char) : Bool := c == '_' || (Text.isAlphanumeric c && !c.isDigit)

def isNamePart (c : Char) : Bool :=
  c == '_' || c == '.' || c == '[' || c == ']' || Text.isAlphanumeric c

def isName : List Char → Bool
  | [] => false
  | c :: cs => isNameStart c && cs.all isNamePart

def Flags.set? (f : Flags) (on : Bool) : Char → Option Flags
  | 'i' => some { f with ignoreCase := on }
  | 'u' => some { f with unicode := on }
  | 'x' => some { f with verbose := on }
  | 'm' | 's' | 'U' | 'R' => some f
  | _ => none

/-- Flags up to a colon or a parenthesis, those after a dash turned off, with what ends them and what
follows it. Each stands once, and none may be missing after a dash or before a parenthesis. -/
def flags? (f : Flags) (seen : List Char) : List Char → Option (Flags × Char × List Char)
  | [] => none
  | c :: cs =>
    if c = ':' ∨ c = ')' then
      if seen.head? = some '-' ∨ (c = ')' ∧ seen = []) then none else some (f, c, cs)
    else if seen.contains c then none
    else if c = '-' then flags? f (c :: seen) cs
    else
      match f.set? (!seen.contains '-') c with
      | some f => flags? f (c :: seen) cs
      | none => none

/-- A pattern read up to some place. -/
structure Scan where
  flags : Flags := {}
  /-- The flags of the groups around, the innermost first. -/
  outer : List Flags := []
  names : List (List Char) := []
  /-- Something stands here that a sign may repeat. -/
  repeatable : Bool := false
  /-- Some boundary is one of Unicode words. -/
  hasWordBoundary : Bool := false
  deriving Repr

def Scan.enter (s : Scan) (f : Flags) : Scan :=
  { s with flags := f, outer := s.flags :: s.outer, repeatable := false }

def Scan.leave? (s : Scan) : Option Scan :=
  match s.outer with
  | [] => none
  | f :: outer => some { s with flags := f, outer, repeatable := true }

def Scan.enterNamed? (s : Scan) (cs : List Char) : Option (Scan × List Char) :=
  let name := cs.takeWhile (· != '>')
  match cs.dropWhile (· != '>') with
  | _ :: rest =>
    if isName name && !s.names.contains name then
      some ({ s.enter s.flags with names := name :: s.names }, rest)
    else none
  | [] => none

/-- What an opening parenthesis begins: a group, with a name or flags or neither, or flags up to the end of
the group around. -/
def Scan.enter? (s : Scan) (cs : List Char) : Option (Scan × List Char) :=
  match s.flags.skip cs with
  | '?' :: 'P' :: '<' :: rest | '?' :: '<' :: rest => s.enterNamed? rest
  | '?' :: rest =>
    (flags? s.flags [] rest).map fun (f, stop, rest) =>
      if stop = ':' then (s.enter f, rest) else ({ s with flags := f, repeatable := false }, rest)
  | rest => some (s.enter s.flags, rest)

def Scan.put? (s : Scan) (a : Atom) : Option Scan :=
  if a.isSound s.flags then
    some { s with
      repeatable := true
      hasWordBoundary := s.hasWordBoundary || (s.flags.unicode && a == .wordBoundary) }
  else none

def Scan.next? (s : Scan) (c : Char) (cs : List Char) : Option (Scan × List Char) :=
  match c with
  | '(' => s.enter? cs
  | ')' => s.leave?.map (·, cs)
  | '|' => some ({ s with repeatable := false }, cs)
  | '[' => (class? s.flags cs).map ({ s with repeatable := true }, ·)
  | '?' | '*' | '+' => if s.repeatable then some (s, cs) else none
  | '\x7b' => none
  | '\\' => (escape? s.flags cs).bind fun (a, rest) => (s.put? a).map (·, rest)
  | '.' => if s.flags.unicode then some ({ s with repeatable := true }, cs) else none
  | '^' | '$' => (s.put? .edge).map (·, cs)
  | _ => (s.put? (.literal c false)).map (·, cs)

/-- Reads to the end, where no group may be open. Each step takes a character. -/
def Scan.run? : Nat → Scan → List Char → Option Scan
  | 0, _, _ => none
  | steps + 1, s, cs =>
    match s.flags.skip cs with
    | [] => if s.outer.isEmpty then some s else none
    | c :: cs => (s.next? c cs).bind fun (s, rest) => run? steps s rest

def check (pattern : List Char) : Except Fault Unit :=
  match Scan.run? (pattern.length + 1) {} pattern with
  | none => .error .malformed
  | some s => if s.hasWordBoundary then .error .wordBoundary else .ok ()

end Pattern

/-! ## Values -/

def isInfiniteOrNot (cs : List Char) : Bool :=
  ["inf", "infinity", "nan"].any fun word => word.toList == cs.map Char.toLower

def dropSign : List Char → List Char
  | '+' :: cs | '-' :: cs => cs
  | cs => cs

def isExponentPart : List Char → Bool
  | [] => true
  | c :: cs => c.toLower == 'e' && !(dropSign cs).isEmpty && (dropSign cs).all Char.isDigit

/-- A number without a sign: digits with a point among them or not, and an exponent or not. -/
def isDecimal (cs : List Char) : Bool :=
  let whole := cs.takeWhile Char.isDigit
  match cs.dropWhile Char.isDigit with
  | '.' :: rest =>
    !(whole.isEmpty && (rest.takeWhile Char.isDigit).isEmpty) && isExponentPart (rest.dropWhile Char.isDigit)
  | rest => !whole.isEmpty && isExponentPart rest

/-- A value is a truth value, a number or a pattern. Only a number after a plus sign is no pattern. -/
def checkValue : List Char → Except Pattern.Fault Unit
  | '+' :: cs => if isDecimal cs || isInfiniteOrNot cs then .ok () else .error .malformed
  | cs => Pattern.check cs

end HidAccess.LogFilter
