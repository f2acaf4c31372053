import Boundary.Bridge
import Boundary.Config.Discovery
import Boundary.Log.Filter

/-!
Starting up: the first call installs the log and opens its file, later calls change nothing about
either. The log shows those events that its filter lets through.
-/

namespace Boundary

structure Logger where
  filter : Filter
  json : Bool

namespace LogSettings

def defaultFileName : String := "tagbridge.log"

/-- The directory and name of the log file that a path stands for. A path that ends in no proper
name stands for the default name in the directory before its last part, and one without parts for
the default name in the working directory. -/
def fileAt (text : String) : Path × String :=
  let path := Path.ofText text
  match path.components.reverse with
  | [] => ({ parts := [] }, defaultFileName)
  | last :: before =>
    ({ path with parts := before.reverse },
      if last = "." ∨ last = ".." then defaultFileName else last)

def openFile (settings : LogSettings) (tree : FileTree) (start : Location) :
    Except Panic FileTree :=
  match settings.toFile, settings.path with
  | true, some text =>
    let (directory, name) := fileAt text
    match tree.openFile start (directory.join name) with
    | .ok tree => .ok tree
    | .error _ =>
      match tree.ensureDirectories start directory.absolute directory.parts.reverse with
      | .error error => .error (.logFileUnusable .makeDirectory error)
      | .ok tree =>
        match tree.openFile start (directory.join name) with
        | .ok tree => .ok tree
        | .error error => .error (.logFileUnusable .openFile error)
  | _, _ => .ok tree

end LogSettings

inductive EntryPoint where
  | native
  | environment
  | settings (settings : LogSettings)

structure Startup where
  environment : Environment
  directory : Location
  tree : FileTree
  logger : Option Logger := none
  probed : Bool := false
  shown : List Event := []

namespace Startup

def isInitialized (startup : Startup) : Bool := startup.logger.isSome

def write (startup : Startup) (events : List Event) : Startup :=
  match startup.logger with
  | none => startup
  | some logger => { startup with shown := startup.shown ++ events.filter logger.filter.passes }

def install (startup : Startup) (filters : FilterReader) (settings : LogSettings) :
    Except Panic Startup :=
  match startup.logger with
  | some _ => .ok startup
  | none => do
    let filter ← filters.choose startup.environment settings.level
    let tree ← settings.openFile startup.tree startup.directory
    .ok { startup with logger := some ⟨filter, settings.json⟩, tree := tree }

def probe (startup : Startup) : Startup :=
  if startup.probed then startup
  else { startup.write [.probed Platform.current.integerTag] with probed := true }

def enter (startup : Startup) (toml : Toml.Format) (filters : FilterReader) :
    EntryPoint → Except Panic Startup
  | .native => do
    let (config, reports) := Config.discover toml startup.tree { parts := startup.directory }
    let reported := startup.write reports
    let installed ← reported.install filters (config.logSettings startup.environment)
    .ok (installed.probe.write [.ready Platform.current.integerTag])
  | .environment => startup.install filters (({} : LogSettings).overriddenBy startup.environment)
  | .settings settings => startup.install filters settings

def use {result : Type} (startup : Startup) (action : Action result) (state : State) : Startup :=
  startup.probe.write ((action.run state).2.events.drop state.events.length)

def greatest (startup : Startup) : Threshold :=
  match startup.logger with
  | some logger => logger.filter.greatest
  | none => none

end Startup

end Boundary
