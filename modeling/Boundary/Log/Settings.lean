import Boundary.Config
import Boundary.Log.Level
import Boundary.Text.Lowercase
import Boundary.Text.Utf8

/-!
What to log and where to. Settings come from a preset or a configuration; variables of the
environment that hold text override them one by one.
-/

namespace Boundary

structure Environment where
  entries : List (String × List UInt8)

namespace Environment

def text? (environment : Environment) (name : String) : Option String :=
  (environment.entries.lookup name).bind fun bytes => (Utf8.decode? bytes).map String.ofList

end Environment

namespace Level

def ofName (name : String) : Level :=
  match Text.lowercase name with
  | "trace" => trace
  | "debug" => debug
  | "info" => info
  | "warn" => warn
  | "error" => error
  | _ => info

end Level

structure LogSettings where
  level : Level := .info
  toFile : Bool := false
  path : Option String := none
  json : Bool := false
  spans : Bool := false
  deriving DecidableEq

namespace LogSettings

def performance : LogSettings := { level := .error }

def debug : LogSettings where
  level := .trace
  toFile := true
  path := some "tagbridge.log"
  json := false
  spans := true

def ofSection (logging : LoggingSection) : LogSettings where
  level := .ofName logging.level
  toFile := logging.file.isSome
  path := logging.file
  json := logging.json
  spans := logging.spans

def overriddenBy (settings : LogSettings) (environment : Environment) : LogSettings where
  level := ((environment.text? "TAGBRIDGE_LOG_LEVEL").map Level.ofName).getD settings.level
  toFile := (environment.text? "TAGBRIDGE_LOG_FILE").isSome || settings.toFile
  path := (environment.text? "TAGBRIDGE_LOG_FILE").orElse fun _ => settings.path
  json := (environment.text? "TAGBRIDGE_LOG_JSON").isSome || settings.json
  spans := (environment.text? "TAGBRIDGE_LOG_SPANS").isSome || settings.spans

end LogSettings

namespace Config

def logSettings (config : Config) (environment : Environment) : LogSettings :=
  (LogSettings.ofSection config.logging).overriddenBy environment

end Config

end Boundary
