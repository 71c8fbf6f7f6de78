import HidAccess.Device
import HidAccess.FileTree.Change

/-!
# Open files

Reading and writing through an open file. A file is read and written at one position, which both move on;
a pipe gives what was written to it, as long as somebody has it open.
-/

namespace HidAccess.FileTree

def openFile (path : String) (t : FileTree) : Except SystemError Nat × FileTree :=
  match t.resolve path true with
  | .error e => (.error e, t)
  | .ok place =>
    match t.nodeOf? place with
    | some (.directory _) => (.error (.call SystemError.isDirectory), t)
    | some .socket => (.error (.call SystemError.noSuchAddress), t)
    | some (.link _) | none => (.error (.call SystemError.noSuchFile), t)
    | some _ => (.ok t.openFiles.length, { t with openFiles := t.openFiles ++ [{ node := place.node }] })

def advance (t : FileTree) (file n : Nat) : FileTree :=
  { t with openFiles := t.openFiles.modify file fun f => { f with position := f.position + n } }

def isPipe (t : FileTree) (file : Nat) : Bool :=
  match t.openFiles[file]?.bind fun f => t.nodes[f.node]? with
  | some (.pipe _) => true
  | _ => false

def readSome (t : FileTree) (file length : Nat) : Bytes × FileTree :=
  match t.openFiles[file]? with
  | none => ([], t)
  | some f =>
    match t.nodes[f.node]? with
    | some (.file content) =>
      let part := (content.drop f.position).take length
      (part, t.advance file part.length)
    | some (.pipe content) => (content.take length, t.setNode f.node (.pipe (content.drop length)))
    | some .zeroDevice | some .fullDevice => (List.replicate length 0, t)
    | _ => ([], t)

/-- A file's content with bytes put in at a position; a gap before it becomes zeros. -/
def putAt (position : Nat) (data content : Bytes) : Bytes :=
  content.take position ++ List.replicate (position - content.length) 0 ++ data
    ++ content.drop (position + data.length)

/-- How much a pipe holds, and how long a write to it is taken as a whole. -/
def pipeCapacity : Nat := 65536
def pipeUnit : Nat := 4096

def writeSome (t : FileTree) (file : Nat) (data : Bytes) : Except SystemError Nat × FileTree :=
  match t.openFiles[file]? with
  | none => (.error (.call SystemError.badFile), t)
  | some f =>
    match t.nodes[f.node]? with
    | some (.file content) =>
      (.ok data.length, (t.setNode f.node (.file (putAt f.position data content))).advance file data.length)
    | some (.pipe content) =>
      let room := pipeCapacity - content.length
      if room = 0 ∨ (data.length ≤ pipeUnit ∧ room < data.length) then (.error (.call SystemError.tryAgain), t)
      else
        let part := data.take room
        (.ok part.length, t.setNode f.node (FileNode.pipe (content ++ part)))
    | some .nullDevice | some .zeroDevice => (.ok data.length, t)
    | some .fullDevice => (.error (.call SystemError.noSpace), t)
    | _ => (.error (.call SystemError.badFile), t)

def isOpen (t : FileTree) (node : Nat) : Bool := t.openFiles.any fun f => f.node == node && !f.closed

/-- Closes an open file; a pipe that nobody has open any more loses what it held. -/
def closeFile (file : Nat) (t : FileTree) : FileTree :=
  match t.openFiles[file]? with
  | none => t
  | some f =>
    let t : FileTree := { t with openFiles := t.openFiles.modify file fun f => { f with closed := true } }
    match t.nodes[f.node]? with
    | some (.pipe _) => if t.isOpen f.node then t else t.setNode f.node (.pipe [])
    | _ => t

def overwrite (path : String) (data : Bytes) (t : FileTree) : Bool × FileTree :=
  match t.openFile path with
  | (.error _, t) => (false, t)
  | (.ok file, t) =>
    let (r, t) := t.writeSome file data
    (r.toOption.isSome, t.closeFile file)

end HidAccess.FileTree
