import Boundary.Config
import Boundary.Event
import Boundary.Files.Tree

/-!
Loading, saving and finding configurations. The nearest directory upwards that has a usable file
decides alone; unusable files on the way are reported and skipped.
-/

namespace Boundary.Config

def fileName : String := "tagbridge.toml"

def accessError (tree : FileTree) (path : Path) (error : FileError) : Error :=
  .configAccess (path.text tree.name) error.message

def load (toml : Toml.Format) (tree : FileTree) (path : Path) : Except Error Config :=
  match tree.readText path with
  | .ok text => parse toml text
  | .error error => .error (accessError tree path error)

def save (toml : Toml.Format) (config : Config) (tree : FileTree) (path : Path) :
    Except Panic (Except Error FileTree) := do
  match ← config.render toml with
  | .error error => .ok (.error error)
  | .ok text =>
    match tree.write path (Utf8.bytes text) with
    | .ok tree => .ok (.ok tree)
    | .error error => .ok (.error (accessError tree path error))

def inDirectory (toml : Toml.Format) (tree : FileTree) (directory : Path) :
    Except (List Event) Config :=
  let path := directory.join fileName
  if tree.contains path then
    match load toml tree path with
    | .ok config => .ok config
    | .error error => .error [.ignoredConfig (path.text tree.name) error.message]
  else
    .error []

/-- The configuration of the nearest directory on the way up from `start` whose file loads, if there
is one; and a report on each file that was skipped. -/
def search (toml : Toml.Format) (tree : FileTree) (start : Path) : Option Config × List Event :=
  match inDirectory toml tree start with
  | .ok config => (some config, [])
  | .error events =>
    match _ : start.parent? with
    | none => (none, events)
    | some above =>
      let (found, further) := search toml tree above
      (found, events ++ further)
termination_by start.parts.length
decreasing_by exact Path.length_parent? ‹start.parent? = some _›

def discover (toml : Toml.Format) (tree : FileTree) (start : Path) : Config × List Event :=
  let (found, events) := search toml tree start
  (found.getD {}, events)

end Boundary.Config
