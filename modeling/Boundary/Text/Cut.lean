import Boundary.Text.Quoted

/-!
Cutting a text at positions that count bytes. A position inside a character is refused.
-/

namespace Boundary.Text

structure BrokenCut where
  atStart : Bool
  position : Nat
  char : Char
  charStart : Nat
  deriving DecidableEq

namespace BrokenCut

def message (cut : BrokenCut) : String :=
  let side := if cut.atStart then "start" else "end"
  let char := "'" ++ String.ofList (escapeChar cut.char) ++ "'"
  s!"{side} byte index {cut.position} is not a char boundary; it is inside " ++ char ++
    s!" (bytes {cut.charStart}..{cut.charStart + cut.char.utf8Size} of string)"

end BrokenCut

/-- A text before and after a byte position, where `passed` bytes come before the text; or the
character that the position lies inside, and where that starts. -/
def splitAtByte (position passed : Nat) :
    List Char → Except (Char × Nat) (List Char × List Char)
  | [] => .ok ([], [])
  | char :: rest =>
    let next := passed + char.utf8Size
    if position = passed then .ok ([], char :: rest)
    else if position < next then .error (char, passed)
    else
      match splitAtByte position next rest with
      | .ok (before, after) => .ok (char :: before, after)
      | .error inside => .error inside

def cut (text : List Char) (first past : Nat) : Except BrokenCut (List Char) :=
  match splitAtByte first 0 text with
  | .error (char, start) => .error ⟨true, first, char, start⟩
  | .ok (_, after) =>
    match splitAtByte past first after with
    | .error (char, start) => .error ⟨false, past, char, start⟩
    | .ok (between, _) => .ok between

end Boundary.Text
