import Boundary.Event
import Boundary.Log.Settings
import Boundary.Log.Threshold

/-!
Which events reach the log is left to a filter. How a filter is spelled is left to a reader of filters,
which the library is given.
-/

namespace Boundary

structure Filter where
  passes : Event → Bool
  greatest : Threshold

/-- A strict reader refuses a malformed text, and a lenient one leaves out what is malformed. Both may
panic over a text. -/
structure FilterReader where
  strict : String → Except Panic (Option Filter)
  lenient : String → Except Panic Filter

namespace FilterReader

def ofLevel (filters : FilterReader) (level : Level) : Except Panic Filter :=
  filters.lenient ("tagbridge=" ++ level.label)

/-- The variable that names a filter wins over the level of the settings, if it is well formed. -/
def choose (filters : FilterReader) (environment : Environment) (level : Level) :
    Except Panic Filter := do
  let named ←
    match environment.text? "RUST_LOG" with
    | some text => filters.strict text
    | none => .ok none
  match named with
  | some filter => .ok filter
  | none => filters.ofLevel level

end FilterReader

end Boundary
