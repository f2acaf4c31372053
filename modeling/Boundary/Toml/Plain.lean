import Boundary.Toml.Document
import Boundary.Toml.Format

/-!
One format, written out: sections under headers of their own, each setting on a line, and a blank line
between sections. Its writer may be one that counts the quotes of a text up to a limit only, and panics
over a longer run.
-/

namespace Boundary.Toml

def countableRuns (limit : Option Nat) (text : List Char) : Bool :=
  limit.all fun limit =>
    decide (longestRun '"' 0 text < limit) && decide (longestRun '\'' 0 text < limit)

def Scalar.written (limit : Option Nat) : Scalar → Except Panic (List Char)
  | .flag value => .ok (if value then "true".toList else "false".toList)
  | .text value =>
    if countableRuns limit value.toList then
      .ok (writeAs (Form.of value.toList) value.toList)
    else
      .error .quoteRunTooLong

def line (key : String) (value : List Char) : List Char :=
  key.toList ++ " = ".toList ++ value ++ ['\n']

def Section.written (limit : Option Nat) : Section → Except Panic (List Char)
  | [] => .ok []
  | (_, none) :: rest => Section.written limit rest
  | (key, some value) :: rest => do
    let value ← value.written limit
    let lines ← Section.written limit rest
    .ok (line key value ++ lines)

def Sections.written (limit : Option Nat) : Sections → Except Panic (List Char)
  | [] => .ok []
  | (name, settings) :: rest => do
    let lines ← settings.written limit
    let others ← Sections.written limit rest
    let space := if rest.isEmpty then [] else ['\n']
    .ok ('[' :: name.toList ++ "]\n".toList ++ lines ++ space ++ others)

/-- The format with a limit on the quotes in a row, if there is one. -/
def plain (limit : Option Nat) : Format where
  read? text := (drafts? text).map fields
  write sections := (sections.written limit).map fun text => some (String.ofList text)

end Boundary.Toml
