import HidAccess.FileTree.Open

/-!
# Prepared file trees

A tree is prepared by a list of things to make below some directory, and looked at and changed by paths
below it.
-/

namespace HidAccess

inductive Fixture where
  | directory (path : String)
  | file (path : String) (content : Bytes)
  | link (path target : String)
  | pipe (path : String)
  | socket (path : String)
  deriving Repr

namespace FileTree

def addFixture (root : String) (t : FileTree) : Fixture → FileTree
  | .directory path => t.makeDirectory (join root path)
  | .file path content => t.writeFile (join root path) content
  | .link path target => t.make (join root path) (.link target)
  | .pipe path => t.make (join root path) (.pipe [])
  | .socket path => t.make (join root path) .socket

def addFixtures (root : String) (fs : List Fixture) (t : FileTree) : FileTree :=
  fs.foldl (addFixture root) t

def prepared (root : String) (fs : List Fixture) : FileTree :=
  (base.makeDirectory root).addFixtures root fs

end FileTree

inductive FileRequest where
  | read (path : String)
  | write (path : String) (data : Bytes)
  | add (fs : List Fixture)
  | remove (path : String)

inductive FileReply where
  | done
  | content (bytes : Option Bytes)
  | success (b : Bool)

def FileTree.control (root : String) : FileRequest → FileTree → FileReply × FileTree
  | .read path, t => (.content (t.read (join root path)).toOption, t)
  | .write path data, t => let (b, t) := t.overwrite (join root path) data; (.success b, t)
  | .add fs, t => (.done, t.addFixtures root fs)
  | .remove path, t =>
    match t.remove? (join root path) with
    | some t => (.success true, t)
    | none => (.success false, t)

end HidAccess
