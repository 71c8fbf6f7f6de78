import HidAccess.BackendKind
import HidAccess.Time

/-!
# Settings

The settings of a program run: which backend to use, how reads are cut into slices and how long they are,
and the log level. Every setting has a default. `validate` says which settings a build can work with; of
several faults it reports the first in the order interval, length, backend.
-/

namespace HidAccess

structure Config where
  kind : Option BackendKind := none
  pollIntervalMillis : Nat := 20
  reportLength : Nat := 64
  logLevel : String := "warn"
  deriving DecidableEq, Repr, Inhabited

namespace Config

def maxPollIntervalMillis : Nat := 100

def pollInterval (c : Config) : Duration := Duration.millis c.pollIntervalMillis

def intervalError (millis : Nat) : AccessError :=
  .config ("read.poll_interval_ms must be between 1 and " ++ toString maxPollIntervalMillis ++ ", got "
    ++ toString millis)

def lengthError : AccessError := .config "read.default_report_len must be non-zero"

def validate (build : Build) (c : Config) : Except AccessError Unit :=
  if c.pollIntervalMillis = 0 ∨ maxPollIntervalMillis < c.pollIntervalMillis then
    .error (intervalError c.pollIntervalMillis)
  else if c.reportLength = 0 then .error lengthError
  else match c.kind with
    | some k => if build.contains k then .ok () else .error (Build.missing k)
    | none => .ok ()

def chosenKind (build : Build) (c : Config) : BackendKind := c.kind.getD build.defaultKind

end Config

end HidAccess
