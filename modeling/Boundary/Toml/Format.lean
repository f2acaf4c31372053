import Boundary.Halt
import Boundary.Toml.Node

/-!
How documents are read and written is left to a format, which the library is given. It hands over the
tables of a text, and it is handed sections with the settings to write, of which some may be absent.
-/

namespace Boundary.Toml

inductive Scalar where
  | text (text : String)
  | flag (value : Bool)
  deriving DecidableEq

def Scalar.node : Scalar → Node
  | .text value => .string value
  | .flag value => .boolean value

abbrev Section := List (String × Option Scalar)

abbrev Sections := List (String × Section)

namespace Section

def entries (settings : Section) : Entries :=
  settings.filterMap fun setting => setting.2.map fun value => (setting.1, value.node)

end Section

namespace Sections

def entries (sections : Sections) : Entries :=
  sections.map fun entry => (entry.1, .table entry.2.entries)

end Sections

/-- A reader gives up on a text that is malformed. A writer may refuse, or panic. -/
structure Format where
  read? : String → Option Entries
  write : Sections → Except Panic (Option String)

end Boundary.Toml
