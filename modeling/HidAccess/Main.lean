import HidAccess.Program

/-!
# The executable

Copies the files that a run may look at into a file tree, runs the program, prints what it printed, and
writes an ordinary file back that it used in place of a device node. Device nodes themselves cannot be
copied: the listing works with them, reports need the in-memory bus or ordinary files.
-/

namespace HidAccess.Main

/-- The kernel has no more nodes than this. -/
def maxNodes : Nat := 64

def copy (path : String) (t : FileTree) : IO FileTree := do
  try
    let content ← IO.FS.readBinFile path
    return t.writeFile path content.toList
  catch _ => return t

def copyAll (paths : List String) (t : FileTree) : IO FileTree := paths.foldlM (fun t path => copy path t) t

def around (place : String) : List String :=
  let names := FileTree.components place
  (List.range names.length).map fun n => "/".intercalate (names.take (names.length - n))

def attributeNames : List String :=
  ["uevent", "report_descriptor", Attributes.interfaceFile, Attributes.vendorFile, "manufacturer", "product",
    "serial", "bcdDevice"]

def copyNode (paths : HidrawPaths) (t : FileTree) (n : Nat) : IO FileTree := do
  let device := FileTree.join (FileTree.join paths.classes (HidrawPaths.nodeStart ++ toString n)) "device"
  try
    let place := toString (← IO.FS.realPath device)
    copyAll ((around place).flatMap fun d => attributeNames.map (FileTree.join d))
      ((t.makeDirectory place).make device (.link place))
  catch _ => return t

/-- The files that the words name: the settings, and what is used as a device unless it is a node. -/
def namedFiles (words : List String) : List String × List String :=
  match Arguments.read words with
  | .error _ => ([], [])
  | .ok a =>
    let target : Target := match a.request with
      | some (.info t) | some (.read t _ _ _ _) | some (.poll t _ _ _ _) => t
      | _ => {}
    let isNode (path : String) : Bool := (Text.dropStart? "/dev/".toList path.toList).isSome
    (a.config.toList, target.path.toList.filter fun path => !isNode path)

def writeBack (before after : FileTree) (path : String) : IO Unit := do
  match (before.read path).toOption, (after.read path).toOption with
  | some old, some new => if old ≠ new then IO.FS.writeBinFile path ⟨new.toArray⟩
  | _, _ => return

def execute (words : List String) : IO UInt32 := do
  let settings := Config.directory (← IO.getEnv "XDG_CONFIG_HOME") (← IO.getEnv "HOME")
  let (configs, devices) := namedFiles words
  let files ← copyAll (Config.defaultPath settings :: configs ++ devices) FileTree.base
  let files ← (List.range maxNodes).foldlM (copyNode {}) files
  let e := Program.run .standard { files, settings, logFilter := ← IO.getEnv "RUST_LOG" } words
  devices.forM (writeBack files e.files)
  IO.print e.printed
  match e.complaint? with
  | some c => IO.eprintln c
  | none => pure ()
  return UInt32.ofNat (e.status?.getD 1)

end HidAccess.Main

def main (words : List String) : IO UInt32 := HidAccess.Main.execute words
