import Boundary.Error
import Boundary.Toml.Format

/-!
The configuration: how much to log and where, and whether threads are checked. A document overlays
the defaults key by key; keys and sections that are not known have no effect.
-/

namespace Boundary

/-! What a key stands for that is missing in its section. A section that is missing as a whole has
defaults of its own. -/

def defaultTrue : Bool := true

def defaultFalse : Bool := false

def defaultLevel : String := "info"

structure LoggingSection where
  level : String := defaultLevel
  json : Bool := false
  spans : Bool := false
  file : Option String := none
  deriving DecidableEq

structure BridgeSection where
  engineThreadChecks : Bool := true
  deriving DecidableEq

structure Config where
  logging : LoggingSection := {}
  bridge : BridgeSection := {}
  deriving DecidableEq

namespace Config

def string? : Toml.Node → Option String
  | .string text => some text
  | _ => none

def boolean? : Toml.Node → Option Bool
  | .boolean value => some value
  | _ => none

abbrev Lookup := String → Nat → Option Toml.Node

/-- A section is a table, or an array of its settings in order. A date counts as a table without
known keys. -/
def lookup? : Toml.Node → Option Lookup
  | .table entries => some fun key _ => Toml.Entries.find? entries key
  | .array items => some fun _ position => items[position]?
  | .moment _ => some fun _ _ => none
  | _ => none

def setting {value : Type} (read : Toml.Node → Option value) (default : value) :
    Option Toml.Node → Option value
  | none => some default
  | some node => read node

def loggingOf (lookup : Lookup) : Option LoggingSection := do
  let level ← setting string? defaultLevel (lookup "level" 0)
  let json ← setting boolean? defaultFalse (lookup "json" 1)
  let spans ← setting boolean? defaultFalse (lookup "spans" 2)
  let file ← setting (fun node => (string? node).map some) none (lookup "file" 3)
  some ⟨level, json, spans, file⟩

def bridgeOf (lookup : Lookup) : Option BridgeSection := do
  let checks ← setting boolean? defaultTrue (lookup "engine_thread_checks" 0)
  some ⟨checks⟩

def ofEntries? (entries : Toml.Entries) : Option Config := do
  let defaults : Config := {}
  let logging ← setting (fun node => (lookup? node).bind loggingOf) defaults.logging
    (entries.find? "logging")
  let bridge ← setting (fun node => (lookup? node).bind bridgeOf) defaults.bridge
    (entries.find? "bridge")
  some ⟨logging, bridge⟩

def parse (toml : Toml.Format) (text : String) : Except Error Config :=
  match (toml.read? text).bind ofEntries? with
  | some config => .ok config
  | none => .error .configSyntax

def sections (config : Config) : Toml.Sections := [
  ("logging", [
    ("level", some (.text config.logging.level)),
    ("json", some (.flag config.logging.json)),
    ("spans", some (.flag config.logging.spans)),
    ("file", config.logging.file.map .text)]),
  ("bridge", [("engine_thread_checks", some (.flag config.bridge.engineThreadChecks))])]

def render (toml : Toml.Format) (config : Config) : Except Panic (Except Error String) :=
  (toml.write config.sections).map fun
    | some text => .ok text
    | none => .error .configUnwritable

def generateDefault (toml : Toml.Format) : Except Panic String :=
  (render toml {}).map fun
    | .ok text => text
    | .error _ => "# Failed to generate config"

end Config

end Boundary
