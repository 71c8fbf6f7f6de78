/-!
# Words of the command line

The commands with their other spellings, the options that each of them knows, and the reasons for which a
command line leads to no run. Three options about the whole run are known everywhere.
-/

namespace HidAccess

inductive CommandName where
  | list
  | info
  | read
  | poll
  deriving DecidableEq, Repr, Inhabited

def CommandName.all : List CommandName := [.list, .info, .read, .poll]

def CommandName.name : CommandName → String
  | .list => "list"
  | .info => "info"
  | .read => "read"
  | .poll => "poll"

def CommandName.spellings (c : CommandName) : List String :=
  c.name :: match c with
    | .list => ["ls", "l"]
    | .info => ["i"]
    | .read => ["r"]
    | .poll => ["p"]

/-- Where an option stands: before the command or after it. -/
abbrev Level := Option CommandName

/-- Why there is nothing to run: help or the version is wanted, or something is wrong. -/
inductive UsageError where
  | helpWanted
  | versionWanted (level : Level)
  | unknownArgument
  | unknownCommand
  | malformedValue
  | missingValue
  | missingOption
  | conflict
  | unneededValue
  deriving DecidableEq, Repr

def UsageError.isWish : UsageError → Bool
  | .helpWanted | .versionWanted _ => true
  | _ => false

inductive CommandWord where
  | command (c : CommandName)
  | help
  deriving DecidableEq, Repr

def CommandWord.read? (word : String) : Option CommandWord :=
  if word = "help" then some .help
  else (CommandName.all.find? fun c => c.spellings.contains word).map .command

inductive ValueOption where
  | config
  | backend
  | logLevel
  | vendorId
  | productId
  | path
  | serial
  | length
  | timeout
  | count
  | report
  | attempts
  | interval
  deriving DecidableEq, Repr

def ValueOption.spelling : ValueOption → String
  | .config => "config"
  | .backend => "backend"
  | .logLevel => "log-level"
  | .vendorId => "vid"
  | .productId => "pid"
  | .path => "path"
  | .serial => "serial"
  | .length => "len"
  | .timeout => "timeout-ms"
  | .count => "count"
  | .report => "report"
  | .attempts => "attempts"
  | .interval => "interval-ms"

def ValueOption.everywhere : List ValueOption := [.config, .backend, .logLevel]

def ValueOption.ofTarget : List ValueOption := [.path, .vendorId, .productId, .serial]

def ValueOption.known : Level → List ValueOption
  | none => everywhere
  | some .list => everywhere ++ [.vendorId, .productId]
  | some .info => everywhere ++ ofTarget
  | some .read => everywhere ++ ofTarget ++ [.length, .timeout, .count]
  | some .poll => everywhere ++ ofTarget ++ [.report, .attempts, .interval, .length]

inductive Flag where
  | json
  | nonblocking
  deriving DecidableEq, Repr

def Flag.spelling : Flag → String
  | .json => "json"
  | .nonblocking => "nonblocking"

def Flag.known : Level → List Flag
  | some .list => [.json]
  | some .read => [.nonblocking]
  | _ => []

inductive LongOption where
  | value (o : ValueOption)
  | flag (f : Flag)
  | wish (e : UsageError)
  deriving DecidableEq, Repr

def LongOption.read? (level : Level) (name : String) : Option LongOption :=
  if name = "help" then some (.wish .helpWanted)
  else if name = "version" then some (.wish (.versionWanted level))
  else
    ((ValueOption.known level).find? fun o => o.spelling == name).map .value
      <|> ((Flag.known level).find? fun f => f.spelling == name).map .flag

def wishOf? (level : Level) (letter : Char) : Option UsageError :=
  if letter = 'h' then some .helpWanted else if letter = 'V' then some (.versionWanted level) else none

end HidAccess
