import HidAccess.CommandLine.Request
import HidAccess.Text.Split

/-!
# The command line

Reading the words of a command line. A value that follows its option as a word of its own is looked at only
when the next option or the end of the level comes, so an unknown word outranks a bad value before it; a
value behind an equals sign is looked at at once. What follows a command is read as a whole before the value
that is left over from before the command. After two dashes no word has a meaning any more.
-/

namespace HidAccess

inductive Word where
  | separator
  | long (name : String) (value : Option String)
  | short (letter : Char)
  | plain (text : String)
  deriving DecidableEq, Repr

namespace Word

def ofLong (cs : List Char) : Word :=
  match cs, Text.splitFirst? '=' cs with
  | [], _ => .separator
  | _, some (name, value) => .long (String.ofList name) (some (String.ofList value))
  | _, none => .long (String.ofList cs) none

def ofString (s : String) : Word :=
  match s.toList with
  | '-' :: '-' :: cs => ofLong cs
  | '-' :: letter :: _ => .short letter
  | _ => .plain s

end Word

/-- An option whose value is still to come, or has come and is not looked at yet. -/
inductive Pending where
  | nothing
  | awaiting (o : ValueOption)
  | value (o : ValueOption) (text : String)
  deriving Repr

structure Scan where
  given : Given := {}
  pending : Pending := .nothing

namespace Scan

def settled (s : Scan) : Except UsageError Given :=
  match s.pending with
  | .nothing => .ok s.given
  | .awaiting _ => .error .missingValue
  | .value o text => s.given.put o text

def isAwaiting (s : Scan) : Bool :=
  match s.pending with
  | .awaiting _ => true
  | _ => false

def takeOption (s : Scan) : LongOption → Option String → Except UsageError Scan
  | .value o, some text => (s.settled.bind fun g => g.put o text).map fun given => { given }
  | .value o, none => s.settled.map fun given => { given, pending := .awaiting o }
  | .flag f, none => (s.settled.bind fun g => g.raise f).map fun given => { given }
  | .wish e, none => s.settled.bind fun _ => .error e
  | .flag _, some _ | .wish _, some _ => .error .unneededValue

def takeLong (level : Level) (s : Scan) (name : String) (value : Option String) : Except UsageError Scan :=
  match LongOption.read? level name with
  | some o => s.takeOption o value
  | none => .error .unknownArgument

def takeShort (level : Level) (s : Scan) (letter : Char) : Except UsageError Scan :=
  match wishOf? level letter with
  | some e => s.takeOption (.wish e) none
  | none => .error .unknownArgument

def strayError (level : Level) (separated : Bool) (word : String) : UsageError :=
  match level with
  | some _ => .unknownArgument
  | none => if separated && (CommandWord.read? word).isSome then .unknownArgument else .unknownCommand

def takePlain (level : Level) (s : Scan) (text : String) : Except UsageError Scan :=
  match s.pending with
  | .awaiting o => .ok { s with pending := .value o text }
  | _ => .error (strayError level false text)

def commandWord? (level : Level) (s : Scan) (word : String) : Option CommandWord :=
  if level.isNone && !s.isAwaiting then CommandWord.read? word else none

def helpOn : List String → UsageError
  | [] => .helpWanted
  | [word] => if (CommandWord.read? word).isSome then .helpWanted else .unknownCommand
  | _ => .unknownCommand

end Scan

structure Scanned where
  scan : Scan
  command : Option (CommandName × List String) := none

namespace Scan

def separate (level : Level) (s : Scan) : List String → Except UsageError Scanned
  | [] => .ok { scan := s }
  | word :: _ => .error (strayError level true word)

def words (level : Level) (s : Scan) : List String → Except UsageError Scanned
  | [] => .ok { scan := s }
  | word :: rest =>
    let goOn (r : Except UsageError Scan) : Except UsageError Scanned :=
      match r with
      | .ok s => words level s rest
      | .error e => .error e
    match s.commandWord? level word, Word.ofString word with
    | some .help, _ => .error (helpOn rest)
    | some (.command c), _ => .ok { scan := s, command := some (c, rest) }
    | none, .separator => separate level s rest
    | none, .long name value => goOn (s.takeLong level name value)
    | none, .short letter => goOn (s.takeShort level letter)
    | none, .plain text => goOn (s.takePlain level text)

end Scan

namespace Arguments

def readCommand (c : CommandName) (words : List String) : Except UsageError (Given × CommandRequest) :=
  match Scan.words (some c) {} words with
  | .error e => .error e
  | .ok scanned =>
    match scanned.scan.settled with
    | .error e => .error e
    | .ok g => (g.request c).map fun r => (g, r)

/-- What stands after the command wins over what stands before it. -/
def ofLevels (before after : Given) (request : Option CommandRequest) : Arguments where
  config := after.config <|> before.config
  backend := after.backend <|> before.backend
  logLevel := after.logLevel <|> before.logLevel
  request

def read (words : List String) : Except UsageError Arguments :=
  match Scan.words none {} words with
  | .error e => .error e
  | .ok { scan, command := none } => scan.settled.map fun g => ofLevels g {} none
  | .ok { scan, command := some (c, rest) } =>
    match readCommand c rest with
    | .error e => .error e
    | .ok (after, request) => scan.settled.map fun before => ofLevels before after (some request)

end Arguments

end HidAccess
