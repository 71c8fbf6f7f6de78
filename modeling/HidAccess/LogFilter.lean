import HidAccess.AccessError
import HidAccess.LogFilter.Pattern
import HidAccess.Text.Alphanumeric
import HidAccess.Text.Blank
import HidAccess.Text.Numeral
import HidAccess.Text.Split

/-!
# Log filters

A log filter is a list of directives between commas, empty ones left out. A directive is a word, which is a
level or what is logged, or what is logged with a level: `word`, `word=level`, `word[span]=level` and
`[span{field}]` or `[span{field=value}]`, where the level and the word may be missing. Blanks around a directive
are skipped unless it has a level: then they count as a part of the level, which no level has. They also shift
the text of a field, which is taken from its place in the directive with its blanks.

After the first start with a valid filter, logging cannot be started again.
-/

namespace HidAccess

namespace LogFilter

inductive Fault where
  | directive
  | level
  | field (f : Pattern.Fault)
  deriving DecidableEq, Repr

def Fault.text : Fault → String
  | .directive => "invalid filter directive"
  | .level =>
    "error parsing level filter: expected one of \"off\", \"error\", \"warn\", \"info\", \"debug\", "
      ++ "\"trace\", or a number 0-5"
  | .field f => "invalid field filter: " ++ f.text

inductive Part where
  | start
  | word
  | span
  /-- A field, with its text so far, the last character first. -/
  | field (text : List Char)
  | afterField
  | afterSpan
  | level
  deriving DecidableEq, Repr

def opensWord (c : Char) : Bool := c == '-' || c == ':' || c == '_' || Text.isAlphanumeric c

/-- A field is a name, or a name and a value after an equals sign; what follows another one is ignored. -/
def checkField (text : List Char) : Except Fault Unit :=
  match Text.splitAt '=' text with
  | _ :: value :: _ => (checkValue value).mapError .field
  | _ => .ok ()

/-- The part that a character leads to; a field takes down the character `taken`. -/
def Part.next : Part → Char → Char → Except Fault Part
  | .start, c, _ => if c = '[' then .ok .span else if opensWord c then .ok .word else .error .directive
  | .word, c, _ => .ok (if c = '=' then .level else if c = '[' then .span else .word)
  | .span, c, _ => .ok (if c = ']' then .afterSpan else if c = '\x7b' then .field [] else .span)
  | .field text, c, taken =>
    if c = '\x7d' then
      if text.isEmpty then .error .directive else (checkField text.reverse).map fun _ => .afterField
    else .ok (.field (taken :: text))
  | .afterField, c, _ => if c = ']' then .ok .afterSpan else .error .directive
  | .afterSpan, c, _ => if c = '=' then .ok .level else .error .directive
  | .level, _, _ => .ok .level

def Part.run (p : Part) : List (Char × Char) → Except Fault (Part × List Char)
  | [] => .ok (p, [])
  | (c, taken) :: cs =>
    if p = .level then .ok (p, c :: cs.map (·.1))
    else
      match p.next c taken with
      | .ok p => p.run cs
      | .error f => .error f

def levelNames : List String := ["off", "error", "warn", "info", "debug", "trace"]

def maxLevel : Nat := 5

def isLevel (cs : List Char) : Bool :=
  cs.isEmpty || (levelNames.any fun name => name.toList == cs.map Char.toLower)
    || (Text.Numeral.read? 10 maxLevel cs).isSome

def checkDirective (cs : List Char) : Except Fault Unit :=
  match Part.start.run ((Text.trim cs).zip cs) with
  | .ok (.word, _) | .ok (.afterSpan, _) => .ok ()
  | .ok (.level, level) => if isLevel level && Text.trim cs == cs then .ok () else .error .level
  | .ok _ => .error .directive
  | .error f => .error f

def checkAll : List (List Char) → Except Fault Unit
  | [] => .ok ()
  | d :: ds => (checkDirective d).bind fun _ => checkAll ds

def check (filter : String) : Except Fault Unit :=
  checkAll ((Text.splitAt ',' filter.toList).filter fun d => !d.isEmpty)

end LogFilter

structure Logging where
  started : Bool := false
  deriving DecidableEq, Repr

namespace Logging

def alreadyStarted : AccessError :=
  .config "logging already initialised: a global default trace dispatcher has already been set"

def badFilter (f : LogFilter.Fault) : AccessError := .config ("invalid log filter: " ++ f.text)

/-- The filter of the environment, if there is a valid one, else the given filter. -/
def chosenFilter (environment : Option String) (filter : String) : String :=
  match environment with
  | some e => if (LogFilter.check e).toOption.isSome then e else filter
  | none => filter

def start (environment : Option String) (filter : String) (l : Logging) : Except AccessError Unit × Logging :=
  match LogFilter.check (chosenFilter environment filter) with
  | .error f => (.error (badFilter f), l)
  | .ok () => if l.started then (.error alreadyStarted, l) else (.ok (), { started := true })

end Logging

end HidAccess
