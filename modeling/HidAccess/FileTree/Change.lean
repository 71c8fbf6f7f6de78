import HidAccess.FileTree

/-!
# Changing a file tree

Making directories, files, links, pipes and sockets, and removing them. Making something first makes the
directories around it. A change that the tree does not allow leaves it as it is.
-/

namespace HidAccess.FileTree

def setNode (t : FileTree) (node : Nat) (n : FileNode) : FileTree :=
  { t with nodes := t.nodes.set node n }

def addEntry (t : FileTree) (place : Place) (name : String) (n : FileNode) : Option (FileTree × Place) :=
  match t.entriesOf? place with
  | none => none
  | some entries =>
    match entries.lookup (.text name) with
    | some _ => none
    | none =>
      let node := t.nodes.length
      let t := { t with nodes := t.nodes.set place.node (.directory (entries ++ [(.text name, node)])) ++ [n] }
      some (t, (name, node) :: place)

def makeWay (t : FileTree) (place : Place) : List String → Option (FileTree × Place)
  | [] => some (t, place)
  | name :: rest =>
    match t.walk true maxLinks place [name] with
    | .ok place => makeWay t place rest
    | .error _ =>
      match t.addEntry place name (.directory []) with
      | some (t, place) => makeWay t place rest
      | none => none

def splitLast (path : String) : List String × String :=
  let names := (components path).filter (· != "")
  (names.dropLast, names.getLast?.getD "")

def origin (path : String) (t : FileTree) : Place := if isAbsolute path then [] else t.working

def makeDirectory (path : String) (t : FileTree) : FileTree :=
  match t.makeWay (t.origin path) (components path) with
  | some (t, _) => t
  | none => t

def make (path : String) (n : FileNode) (t : FileTree) : FileTree :=
  let (names, last) := splitLast path
  match t.makeWay (t.origin path) names with
  | none => t
  | some (t, place) =>
    match t.addEntry place last n with
    | some (t, _) => t
    | none => t

def writeFile (path : String) (content : Bytes) (t : FileTree) : FileTree :=
  match t.resolve path true with
  | .ok place =>
    match t.nodeOf? place with
    | some (.file _) => t.setNode place.node (.file content)
    | _ => t
  | .error _ => t.make path (.file content)

/-- Removes a name, and with that of a directory all that is below it; a link goes without its target. -/
def remove? (path : String) (t : FileTree) : Option FileTree :=
  match t.resolve path false with
  | .error _ => none
  | .ok [] => none
  | .ok ((name, _) :: around) =>
    (t.entriesOf? around).map fun entries =>
      t.setNode (Place.node around) (.directory (entries.filter fun e => e.1 != .text name))

def base : FileTree :=
  let t : FileTree := {}
  let t := t.make "/dev/null" .nullDevice |>.make "/dev/zero" .zeroDevice |>.make "/dev/full" .fullDevice
  let t := t.makeDirectory "/work"
  match t.resolve "/work" true with
  | .ok place => { t with working := place }
  | .error _ => t

end HidAccess.FileTree
