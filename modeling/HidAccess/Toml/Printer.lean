import HidAccess.Bytes
import HidAccess.Toml.Value

/-!
# Printing TOML strings

A string is written in the plainest form that can hold it: between double quotes without any escape but
the tab's, else between single quotes, else in one of the two forms over several lines, else with escapes.
A form over several lines starts on a new line when the text has a line feed.
-/

namespace HidAccess.Toml

inductive StringForm where
  | basic
  | literal
  | basicLines
  | literalLines
  deriving DecidableEq, Repr

def isControl (c : Char) : Bool :=
  c != '\t' && c != '\n' && (decide (c.toNat < 0x20) || c.toNat == 0x7F)

/-- The length of the longest run of `c`, where `run` of it stand just before. -/
def longestRun (c : Char) : (run : Nat) → List Char → Nat
  | run, [] => run
  | run, x :: xs => if x == c then longestRun c (run + 1) xs else max run (longestRun c 0 xs)

def StringForm.of (cs : List Char) : StringForm :=
  let controls := cs.any isControl
  let broken := cs.contains '\n'
  if !controls && !cs.contains '\\' && !cs.contains '"' && !broken then .basic
  else if !controls && !cs.contains '\'' && !broken then .literal
  else if !controls && !cs.contains '\\' && longestRun '"' 0 cs ≤ 2 then .basicLines
  else if !controls && longestRun '\'' 0 cs ≤ 2 then .literalLines
  else if broken then .basicLines
  else .basic

def upperHex (c : Char) : List Char := (Bytes.hexByte (UInt8.ofNat c.toNat)).map Char.toUpper

def escaped (lines : Bool) (c : Char) : List Char :=
  if c = '\x08' then ['\\', 'b']
  else if c = '\t' then ['\\', 't']
  else if c = '\n' then (if lines then ['\n'] else ['\\', 'n'])
  else if c = '\x0c' then ['\\', 'f']
  else if c = '\r' then ['\\', 'r']
  else if c = '\\' then ['\\', '\\']
  else if isControl c then '\\' :: 'u' :: '0' :: '0' :: upperHex c
  else [c]

/-- A text in a form with escapes. A double quote is escaped after `allowed` of them in a row, of which
`run` stand just before. -/
def escapedText (lines : Bool) (allowed : Nat) : (run : Nat) → List Char → List Char
  | _, [] => []
  | run, c :: cs =>
    if c = '"' then
      if run < allowed then '"' :: escapedText lines allowed (run + 1) cs
      else '\\' :: '"' :: escapedText lines allowed 0 cs
    else escaped lines c ++ escapedText lines allowed 0 cs

def leadingBreak (cs : List Char) : List Char := if cs.contains '\n' then ['\n'] else []

def StringForm.chars (form : StringForm) (cs : List Char) : List Char :=
  match form with
  | .basic => '"' :: (escapedText false 0 0 cs ++ ['"'])
  | .literal => '\'' :: (cs ++ ['\''])
  | .basicLines => ['"', '"', '"'] ++ leadingBreak cs ++ escapedText true 2 0 cs ++ ['"', '"', '"']
  | .literalLines => ['\'', '\'', '\''] ++ leadingBreak cs ++ cs ++ ['\'', '\'', '\'']

def stringText (s : String) : String := String.ofList ((StringForm.of s.toList).chars s.toList)

end HidAccess.Toml
