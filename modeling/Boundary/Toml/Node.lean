/-!
What a configuration document says: texts, flags, numbers, moments in time, arrays and tables.
-/

namespace Boundary.Toml

/-- A float and a moment keep their written form. -/
inductive Node where
  | string (text : String)
  | boolean (value : Bool)
  | integer (value : Int)
  | float (written : String)
  | moment (written : String)
  | array (items : List Node)
  | table (entries : List (String × Node))

abbrev Entries := List (String × Node)

namespace Entries

def find? (entries : Entries) (key : String) : Option Node := entries.lookup key

end Entries

end Boundary.Toml
