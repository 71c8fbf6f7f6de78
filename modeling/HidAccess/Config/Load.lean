import HidAccess.Config.Toml
import HidAccess.FileTree

/-!
# Settings from a file

The settings come from the file that is asked for, else from the default place below the user's
configuration directory if something is there, else they are the defaults.
-/

namespace HidAccess.Config

/-- The user's configuration directory: the one that is set, if it is absolute, else one in the home. -/
def directory (configured home : Option String) : String :=
  match configured.filter FileTree.isAbsolute with
  | some d => d
  | none => FileTree.join (home.getD "/") ".config"

def defaultPath (directory : String) : String := FileTree.join directory "hidkit/config.toml"

def unreadable (path : String) (e : SystemError) : AccessError :=
  .config ("cannot read " ++ path ++ ": " ++ e.shown)

def load (build : Build) (t : FileTree) (path : String) : Except AccessError Config :=
  match t.readText path with
  | .ok text => ofToml build text
  | .error e => .error (unreadable path e)

def loadOrDefault (build : Build) (t : FileTree) (directory : String) (path : Option String) :
    Except AccessError Config :=
  match path with
  | some path => load build t path
  | none =>
    if t.contains (defaultPath directory) then load build t (defaultPath directory) else .ok {}

end HidAccess.Config
