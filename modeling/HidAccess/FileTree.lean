import HidAccess.Bytes
import HidAccess.SystemError
import HidAccess.Text.Utf8

/-!
# File trees

Directories, files, symbolic links, pipes, sockets and three special devices, as nodes that directories
name. Paths are texts, and none leads to a name that is no text. A path leads through directories from the
root, or from the working directory; links on the way are followed, at most 40 in all. The place that it
leads to is the chain of names and nodes below the root, so the place of a followed path has no links, and
its tails are the directories around it.
-/

namespace HidAccess

/-- What a directory calls a node: a text, or octets that are no text. -/
inductive FileName where
  | text (s : String)
  | octets (bs : Bytes) (noText : Text.Utf8.decode? bs = none)
  deriving DecidableEq, Repr

def FileName.shown : FileName → String
  | text s => s
  | octets bs _ => Text.Utf8.decodeLossy bs

@[simp] theorem FileName.shown_text (s : String) : (text s).shown = s := rfl

@[simp] theorem FileName.text_beq (a b : String) : (text a == text b) = (a == b) := by
  rw [Bool.eq_iff_iff, beq_iff_eq, beq_iff_eq, text.injEq]

inductive FileNode where
  | directory (entries : List (FileName × Nat))
  | file (content : Bytes)
  | link (target : String)
  | pipe (content : Bytes)
  | socket
  | nullDevice
  | zeroDevice
  | fullDevice
  deriving Repr

/-- An open file: its node and, for a file, the position of the next read or write. -/
structure OpenFile where
  node : Nat
  position : Nat := 0
  closed : Bool := false
  deriving Repr

/-- The names and nodes from a node up to the root, the root left out. -/
abbrev Place := List (String × Nat)

structure FileTree where
  /-- Node 0 is the root. -/
  nodes : List FileNode := [.directory []]
  working : Place := []
  openFiles : List OpenFile := []
  deriving Repr

def Place.node : Place → Nat
  | [] => 0
  | (_, n) :: _ => n

namespace FileTree

def maxLinks : Nat := 40
def maxName : Nat := 255
def maxPath : Nat := 4095

def nodeOf? (t : FileTree) (p : Place) : Option FileNode := t.nodes[p.node]?

def entriesOf? (t : FileTree) (p : Place) : Option (List (FileName × Nat)) :=
  match t.nodeOf? p with
  | some (.directory entries) => some entries
  | _ => none

def components (path : String) : List String := (Text.splitAt '/' path.toList).map String.ofList

def isAbsolute (path : String) : Bool := path.toList.head? == some '/'

/-- Follows names from a place. The last one, if it names a link, is followed only on demand. -/
def walk (t : FileTree) (follow : Bool) (links : Nat) (place : Place) (names : List String) :
    Except SystemError Place :=
  match names with
  | [] => .ok place
  | name :: rest =>
    match t.entriesOf? place with
    | none => .error (.call SystemError.notDirectory)
    | some entries =>
      if name = "" ∨ name = "." then t.walk follow links place rest
      else if name = ".." then t.walk follow links place.tail rest
      else if maxName < name.utf8ByteSize then .error (.call SystemError.nameTooLong)
      else match entries.lookup (.text name) with
        | none => .error (.call SystemError.noSuchFile)
        | some node =>
          match t.nodes[node]? with
          | some (.link target) =>
            if rest.isEmpty && !follow then .ok ((name, node) :: place)
            else match links with
              | 0 => .error (.call SystemError.tooManyLinks)
              | links + 1 =>
                if target.isEmpty then .error (.call SystemError.noSuchFile)
                else t.walk follow links (if isAbsolute target then [] else place) (components target ++ rest)
          | _ => t.walk follow links ((name, node) :: place) rest
termination_by (links, names.length)

def zeroInPath : SystemError := .described .invalidInput "file name contained an unexpected NUL byte"

def resolve (t : FileTree) (path : String) (follow : Bool) : Except SystemError Place :=
  if path.toList.contains '\x00' then .error zeroInPath
  else if path.isEmpty then .error (.call SystemError.noSuchFile)
  else if maxPath < path.utf8ByteSize then .error (.call SystemError.nameTooLong)
  else t.walk follow maxLinks (if isAbsolute path then [] else t.working) (components path)

def join (base path : String) : String :=
  if isAbsolute path then path
  else if base.isEmpty || base.toList.getLast? == some '/' then base ++ path
  else base ++ "/" ++ path

def contains (t : FileTree) (path : String) : Bool := (t.resolve path true).toOption.isSome

def list (t : FileTree) (path : String) : Except SystemError (List FileName) :=
  match t.resolve path true with
  | .error e => .error e
  | .ok place =>
    match t.entriesOf? place with
    | some entries => .ok (entries.map (·.1))
    | none => .error (.call SystemError.notDirectory)

/-- All of a file. Devices that never end and pipes that never open count as empty. -/
def contentAt (t : FileTree) (place : Place) : Except SystemError Bytes :=
  match t.nodeOf? place with
  | some (.file content) => .ok content
  | some (.directory _) => .error (.call SystemError.isDirectory)
  | some .socket => .error (.call SystemError.noSuchAddress)
  | some (.pipe _) | some .nullDevice | some .zeroDevice | some .fullDevice => .ok []
  | some (.link _) | none => .error (.call SystemError.noSuchFile)

def read (t : FileTree) (path : String) : Except SystemError Bytes :=
  match t.resolve path true with
  | .ok place => t.contentAt place
  | .error e => .error e

def readFrom (t : FileTree) (place : Place) (name : String) : Except SystemError Bytes :=
  match t.walk true maxLinks place [name] with
  | .ok place => t.contentAt place
  | .error e => .error e

def isFileFrom (t : FileTree) (place : Place) (name : String) : Bool :=
  match t.walk true maxLinks place [name] with
  | .ok place =>
    match t.nodeOf? place with
    | some (.file _) => true
    | _ => false
  | .error _ => false

def notText : SystemError := .described .other "stream did not contain valid UTF-8"

def asText (content : Except SystemError Bytes) : Except SystemError String :=
  match content with
  | .error e => .error e
  | .ok bytes =>
    match Text.Utf8.decode? bytes with
    | some s => .ok s
    | none => .error notText

def readText (t : FileTree) (path : String) : Except SystemError String := asText (t.read path)

def readTextFrom? (t : FileTree) (place : Place) (name : String) : Option String :=
  (asText (t.readFrom place name)).toOption

end FileTree

end HidAccess
