import Boundary.Log.Level

/-!
The most talkative level that may pass, or none at all.
-/

namespace Boundary

abbrev Threshold := Option Level

namespace Threshold

def verbosity : Threshold → Nat
  | none => 0
  | some level => level.verbosity

def label : Threshold → String
  | none => "off"
  | some level => level.label

def ofVerbosity? : Nat → Option Threshold
  | 0 => some none
  | 1 => some (some .error)
  | 2 => some (some .warn)
  | 3 => some (some .info)
  | 4 => some (some .debug)
  | 5 => some (some .trace)
  | _ => none

def max (left right : Threshold) : Threshold :=
  if verbosity left < verbosity right then right else left

def lowerAscii (text : List Char) : List Char := text.map Char.toLower

def ofText? (text : List Char) : Option Threshold :=
  let digits := match text with
    | '+' :: rest => rest
    | text => text
  if digits ≠ [] ∧ digits.all Char.isDigit then
    ofVerbosity? (digits.foldl (fun total digit => total * 10 + (digit.toNat - '0'.toNat)) 0)
  else if lowerAscii text = "off".toList then
    some none
  else
    (Level.all.find? fun level => level.label.toList == lowerAscii text).map some

end Threshold

end Boundary
