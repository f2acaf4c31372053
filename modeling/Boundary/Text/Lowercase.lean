import Boundary.Text.CaseTable

/-!
Lowercase forms. A character may become several; a capital sigma at the end of a word becomes the
final form when the whole text is lowercased.
-/

namespace Boundary.Text

def lowerCode (code : Nat) : Nat :=
  match caseRuns.find? fun run => run.covers code with
  | some run => run.apply code
  | none => code

def lowerChar (char : Char) : List Char :=
  if char = '\u0130' then ['i', '\u0307'] else [Char.ofNat (lowerCode char.toNat)]

def meetsCased (text : List Char) : Bool :=
  match text.find? fun char => !caseIgnorableRanges.has char.toNat with
  | some char => casedRanges.has char.toNat
  | none => false

def lowerFrom (before : List Char) : List Char → List Char
  | [] => []
  | char :: rest =>
    let lowered :=
      if char = '\u03a3' ∧ meetsCased before ∧ !meetsCased rest then ['\u03c2']
      else lowerChar char
    lowered ++ lowerFrom (char :: before) rest

def lowercase (text : String) : String := String.ofList (lowerFrom [] text.toList)

end Boundary.Text
