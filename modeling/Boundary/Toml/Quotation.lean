import Boundary.Text.Hexadecimal

/-!
Texts between quotes: basic ones with escapes, literal ones without, each also in a long form that
may hold line breaks and single quotes of its own kind. Writing chooses the form that needs the
fewest escapes.
-/

namespace Boundary.Toml

abbrev Reader (result : Type) := List Char → Option (result × List Char)

def isBlank (char : Char) : Bool := char == ' ' || char == '\t'

def isControl (char : Char) : Bool :=
  (decide (char.toNat < 0x20) && char != '\t' && char != '\n') || char == '\x7f'

def isInline (char : Char) : Bool := !isControl char && char != '\n'

def readCode (count : Nat) (text : List Char) : Option (Char × List Char) :=
  if text.length < count then none
  else (Text.charOfHex? (text.take count)).map fun char => (char, text.drop count)

def readEscape : Reader Char
  | [] => none
  | char :: rest =>
    if char = 'b' then some ('\x08', rest)
    else if char = 't' then some ('\t', rest)
    else if char = 'n' then some ('\n', rest)
    else if char = 'f' then some ('\x0c', rest)
    else if char = 'r' then some ('\r', rest)
    else if char = '"' then some ('"', rest)
    else if char = '\\' then some ('\\', rest)
    else if char = 'u' then readCode 4 rest
    else if char = 'U' then readCode 8 rest
    else none

theorem length_readCode {count : Nat} {text rest : List Char} {char : Char}
    (found : readCode count text = some (char, rest)) : rest.length ≤ text.length := by
  unfold readCode at found
  split at found
  · simp at found
  · obtain ⟨_, _, same⟩ := Option.map_eq_some_iff.1 found
    simp only [Prod.mk.injEq] at same
    rw [← same.2, List.length_drop]
    omega

theorem length_readEscape {text rest : List Char} {char : Char}
    (found : readEscape text = some (char, rest)) : rest.length < text.length := by
  cases text with
  | nil => simp [readEscape] at found
  | cons head tail =>
      simp only [List.length_cons]
      unfold readEscape at found
      grind [→ length_readCode]

def push (char : Char) : Option (List Char × List Char) → Option (List Char × List Char)
  | some (text, rest) => some (char :: text, rest)
  | none => none

def readBasic : Reader (List Char)
  | [] => none
  | char :: rest =>
    if char = '"' then some ([], rest)
    else if char = '\\' then
      match _ : readEscape rest with
      | some (escaped, after) => push escaped (readBasic after)
      | none => none
    else if isInline char then push char (readBasic rest)
    else none
termination_by text => text.length
decreasing_by
  · have shorter := length_readEscape ‹readEscape _ = some _›
    simp only [List.length_cons]
    omega
  · simp

def readLiteral : Reader (List Char)
  | [] => none
  | char :: rest =>
    if char = '\'' then some ([], rest)
    else if isInline char then push char (readLiteral rest)
    else none

def nextLine? (text : List Char) : Option (List Char) :=
  match text.dropWhile isBlank with
  | '\n' :: rest => some rest
  | _ => none

def skipSpace (text : List Char) : List Char :=
  text.dropWhile fun char => isBlank char || char == '\n'

theorem length_dropWhile_le (test : Char → Bool) (text : List Char) :
    (text.dropWhile test).length ≤ text.length := by
  induction text with
  | nil => simp
  | cons char rest ih =>
      simp only [List.dropWhile_cons]
      split
      · simp only [List.length_cons]
        omega
      · simp

theorem length_nextLine? {text rest : List Char} (found : nextLine? text = some rest) :
    rest.length < text.length := by
  unfold nextLine? at found
  split at found
  · next after split =>
      have bound := length_dropWhile_le isBlank text
      rw [split] at bound
      simp only [List.length_cons] at bound
      simp only [Option.some.injEq] at found
      subst found
      omega
  · simp at found

def readClosing (quote : Char) : Reader (List Char)
  | a :: b :: c :: d :: e :: rest =>
    if a = quote ∧ b = quote ∧ c = quote then
      if d = quote then
        if e = quote then some ([quote, quote], rest) else some ([quote], e :: rest)
      else some ([], d :: e :: rest)
    else none
  | [a, b, c, d] =>
    if a = quote ∧ b = quote ∧ c = quote then
      if d = quote then some ([quote], []) else some ([], [d])
    else none
  | [a, b, c] => if a = quote ∧ b = quote ∧ c = quote then some ([], []) else none
  | _ => none

def readLongBasic (text : List Char) : Option (List Char × List Char) :=
  match readClosing '"' text with
  | some closing => some closing
  | none =>
    match text with
    | [] => none
    | char :: rest =>
      if char = '\\' then
        match _ : nextLine? rest with
        | some after => readLongBasic (skipSpace after)
        | none =>
          match _ : readEscape rest with
          | some (escaped, after) => push escaped (readLongBasic after)
          | none => none
      else if isControl char then none
      else push char (readLongBasic rest)
termination_by text.length
decreasing_by
  · have line := length_nextLine? ‹nextLine? _ = some _›
    have space := length_dropWhile_le (fun char => isBlank char || char == '\n') after
    simp only [skipSpace, List.length_cons]
    omega
  · have shorter := length_readEscape ‹readEscape _ = some _›
    simp only [List.length_cons]
    omega
  · simp

def readLongLiteral : Reader (List Char)
  | [] => none
  | char :: rest =>
    match readClosing '\'' (char :: rest) with
    | some closing => some closing
    | none => if isControl char then none else push char (readLongLiteral rest)

def dropLineBreak : List Char → List Char
  | '\n' :: rest => rest
  | text => text

def readText : Reader (List Char)
  | '"' :: '"' :: '"' :: rest => readLongBasic (dropLineBreak rest)
  | '"' :: rest => readBasic rest
  | '\'' :: '\'' :: '\'' :: rest => readLongLiteral (dropLineBreak rest)
  | '\'' :: rest => readLiteral rest
  | _ => none

/-! Writing -/

inductive Form where
  | basic
  | literal
  | longBasic
  | longLiteral
  deriving DecidableEq

def longestRun (target : Char) (run : Nat) : List Char → Nat
  | [] => run
  | char :: rest =>
    if char = target then longestRun target (run + 1) rest
    else max run (longestRun target 0 rest)

def Form.of (text : List Char) : Form :=
  let controls := text.any isControl
  let lines := text.contains '\n'
  let backslashes := text.contains '\\'
  let doubles := longestRun '"' 0 text
  let singles := longestRun '\'' 0 text
  if !controls && !backslashes && doubles == 0 && !lines then .basic
  else if !controls && singles == 0 && !lines then .literal
  else if !controls && !backslashes && decide (doubles ≤ 2) then .longBasic
  else if !controls && decide (singles ≤ 2) then .longLiteral
  else if lines then .longBasic
  else .basic

def fourHex (code : Nat) : List Char :=
  let digits := (Nat.toDigits 16 code).map Char.toUpper
  List.replicate (4 - digits.length) '0' ++ digits

def escape (char : Char) : List Char :=
  if char = '\x08' then ['\\', 'b']
  else if char = '\t' then ['\\', 't']
  else if char = '\n' then ['\\', 'n']
  else if char = '\x0c' then ['\\', 'f']
  else if char = '\r' then ['\\', 'r']
  else if char = '"' then ['\\', '"']
  else if char = '\\' then ['\\', '\\']
  else if isControl char then '\\' :: 'u' :: fourHex char.toNat
  else [char]

def writeLong (run : Nat) : List Char → List Char
  | [] => []
  | char :: rest =>
    if char = '"' then
      if run = 2 then '\\' :: '"' :: writeLong 0 rest else '"' :: writeLong (run + 1) rest
    else if char = '\n' then '\n' :: writeLong 0 rest
    else escape char ++ writeLong 0 rest

def opening (quote : Char) (text : List Char) : List Char :=
  [quote, quote, quote] ++ if text.contains '\n' then ['\n'] else []

def writeAs (form : Form) (text : List Char) : List Char :=
  match form with
  | .basic => '"' :: text.flatMap escape ++ ['"']
  | .literal => '\'' :: text ++ ['\'']
  | .longBasic => opening '"' text ++ writeLong 0 text ++ ['"', '"', '"']
  | .longLiteral => opening '\'' text ++ text ++ ['\'', '\'', '\'']

end Boundary.Toml
