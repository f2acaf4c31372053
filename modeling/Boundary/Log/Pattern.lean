import Boundary.Text.Alphanumeric
import Boundary.Text.Hexadecimal

/-!
Patterns for the values of fields: the usual regular expressions, with flags, groups that may have
names, and classes of characters. Only the form of a pattern matters here. Whatever needs a table of
characters is refused: classes such as digits or letters, boundaries of words and folding of case,
unless they are limited to ASCII by switching Unicode off. A pattern never matches bytes that are no
text, and its parts do not nest too deep.
-/

namespace Boundary

namespace Pattern

structure Mode where
  unicode : Bool := true
  folding : Bool := false
  spaced : Bool := false

namespace Mode

def switch (mode : Mode) (flag : Char) (value : Bool) : Mode :=
  if flag = 'u' then { mode with unicode := value }
  else if flag = 'i' then { mode with folding := value }
  else if flag = 'x' then { mode with spaced := value }
  else mode

def afterSpace (inComment : Bool) : List Char → List Char
  | [] => []
  | char :: rest =>
    if inComment then afterSpace (char != '\n') rest
    else if Text.isBlank char then afterSpace false rest
    else if char = '#' then afterSpace true rest
    else char :: rest

def skip (mode : Mode) (text : List Char) : List Char :=
  if mode.spaced then afterSpace false text else text

/-- The character that decides what a dash before it means: the next one apart from white space and
one hash sign. What follows a hash sign is not passed over as a comment here. -/
def peek? (mode : Mode) (text : List Char) : Option Char :=
  if mode.spaced then
    let seen := match text.dropWhile Text.isBlank with
      | '#' :: rest => (rest.dropWhile Text.isBlank).head?
      | rest => rest.head?
    seen.orElse fun _ => text.head?
  else text.head?

def foldsWidely (mode : Mode) : Bool := mode.unicode && mode.folding

end Mode

def depthLimit : Nat := 250

def depthOf : List Nat → Nat
  | [] => 0
  | [depth] => depth
  | depths => depths.foldl Nat.max 0 + 1

inductive Escape where
  | literal (char : Char) (isByte : Bool)
  | kind (negated : Bool)
  | anchor
  | wordBoundary

namespace Escape

def admitted (mode : Mode) : Escape → Bool
  | literal char isByte =>
    !mode.foldsWidely && (mode.unicode || !isByte || decide (char.toNat < 0x80))
  | kind negated => !mode.unicode && !negated
  | anchor => true
  | wordBoundary => !mode.unicode

def admittedInClass (mode : Mode) : Escape → Bool
  | literal char _ => !mode.foldsWidely && (mode.unicode || decide (char.toNat < 0x80))
  | kind negated => (kind negated).admitted mode
  | anchor | wordBoundary => false

end Escape

def readDigits (mode : Mode) : Nat → List Char → Option (List Char × List Char)
  | 0, text => some ([], text)
  | _ + 1, [] => none
  | count + 1, digit :: rest => do
    let (digits, rest) ← readDigits mode count (mode.skip rest)
    some (digit :: digits, rest)

def readCode (mode : Mode) (count : Nat) (text : List Char) : Option (Char × List Char) := do
  let (digits, rest) ← readDigits mode count (mode.skip text)
  let char ← Text.charOfHex? digits
  some (char, rest)

def controls : List (Char × Char) :=
  [('a', '\x07'), ('f', '\x0c'), ('t', '\t'), ('n', '\n'), ('r', '\r'), ('v', '\x0b')]

def isEscapable (char : Char) : Bool := decide (char.toNat < 0x80) && !char.isAlphanum

def readEscape (mode : Mode) : List Char → Option (Escape × List Char)
  | [] => none
  | char :: rest =>
    if char = 'x' then (readCode mode 2 rest).map fun (char, rest) => (.literal char true, rest)
    else if char = 'u' then
      (readCode mode 4 rest).map fun (char, rest) => (.literal char false, rest)
    else if char = 'U' then
      (readCode mode 8 rest).map fun (char, rest) => (.literal char false, rest)
    else if "dsw".toList.contains char then some (.kind false, rest)
    else if "DSW".toList.contains char then some (.kind true, rest)
    else if "Az".toList.contains char then some (.anchor, rest)
    else if "bB<>".toList.contains char then some (.wordBoundary, rest)
    else
      match controls.lookup char with
      | some control => some (.literal control false, rest)
      | none => if isEscapable char then some (.literal char false, rest) else none

/-! Classes of characters -/

def classNames : List String :=
  ["alnum", "alpha", "ascii", "blank", "cntrl", "digit", "graph", "lower", "print", "punct",
   "space", "upper", "word", "xdigit"]

def readNamedClass : List Char → Option (Bool × List Char)
  | ':' :: rest =>
    let (negated, text) := match rest with
      | '^' :: rest => (true, rest)
      | rest => (false, rest)
    let inName (char : Char) : Bool := char != ':'
    match text.dropWhile inName with
    | ':' :: ']' :: after =>
      if classNames.contains (String.ofList (text.takeWhile inName)) then some (negated, after)
      else none
    | _ => none
  | _ => none

def readMember (mode : Mode) : List Char → Option (Escape × List Char)
  | [] => none
  | '\\' :: rest => readEscape mode rest
  | char :: rest => some (.literal char false, rest)

def isRange : Escape → Escape → Bool
  | .literal first _, .literal last _ => decide (first.toNat ≤ last.toNat)
  | _, _ => false

/-- A character of a class, or a range of them. A dash before the end of the class or before another
dash makes no range. -/
def readItem (mode : Mode) (text : List Char) : Option (List Char) := do
  let (first, rest) ← readMember mode text
  let rest := mode.skip rest
  let single := if first.admittedInClass mode then some rest else none
  match rest with
  | '-' :: after =>
    match mode.peek? after with
    | some ']' | some '-' => single
    | _ => do
      let (last, rest) ← readMember mode (mode.skip after)
      if first.admittedInClass mode && last.admittedInClass mode && isRange first last then
        some rest
      else none
  | _ => single

/-- Where in a class reading is: right after the bracket that opens it, among the first characters,
where dashes and then a closing bracket stand for themselves, or further on. -/
inductive ClassPlace where
  | opening
  | leading
  | inside

structure ClassFrame where
  left : Option Nat := none
  items : List Nat := []

namespace ClassFrame

def depth (frame : ClassFrame) : Nat :=
  match frame.left with
  | none => depthOf frame.items
  | some left => Nat.max left (depthOf frame.items) + 1

def add (frame : ClassFrame) (depth : Nat) : ClassFrame :=
  { frame with items := depth :: frame.items }

def combine (frame : ClassFrame) : ClassFrame := ⟨some frame.depth, []⟩

end ClassFrame

def readClass (mode : Mode) :
    Nat → ClassPlace → ClassFrame → List ClassFrame → List Char → Option (Nat × List Char)
  | 0, _, _, _, _ => none
  | fuel + 1, place, frame, around, text =>
    let mark : Escape := .literal '-' false
    match place, mode.skip text with
    | _, [] => none
    | .opening, '^' :: rest =>
      if mode.unicode then readClass mode fuel .leading frame around rest else none
    | .opening, text => readClass mode fuel .leading frame around text
    | .leading, '-' :: rest =>
      if mark.admittedInClass mode then readClass mode fuel .leading (frame.add 0) around rest
      else none
    | .leading, ']' :: rest =>
      if !frame.items.isEmpty then readClass mode fuel .inside frame around (']' :: rest)
      else if mark.admittedInClass mode then
        readClass mode fuel .inside (frame.add 0) around rest
      else none
    | .leading, text => readClass mode fuel .inside frame around text
    | .inside, ']' :: rest =>
      match around with
      | [] => some (frame.depth + 1, rest)
      | outer :: around => readClass mode fuel .inside (outer.add (frame.depth + 1)) around rest
    | .inside, '[' :: rest =>
      match readNamedClass rest with
      | some (negated, after) =>
        if !mode.foldsWidely && (mode.unicode || !negated) then
          readClass mode fuel .inside (frame.add 0) around after
        else none
      | none => readClass mode fuel .opening {} (frame :: around) rest
    | .inside, '&' :: '&' :: rest => readClass mode fuel .inside frame.combine around rest
    | .inside, '-' :: '-' :: rest => readClass mode fuel .inside frame.combine around rest
    | .inside, '~' :: '~' :: rest => readClass mode fuel .inside frame.combine around rest
    | .inside, text => do
      readClass mode fuel .inside (frame.add 0) around (← readItem mode text)

/-! Groups -/

def readFlags (mode : Mode) (seen : List Char) : List Char → Option (Mode × List Char)
  | [] => none
  | char :: rest =>
    if char = ':' ∨ char = ')' then
      if seen.head? = some '-' then none else some (mode, char :: rest)
    else if seen.contains char then none
    else if char = '-' then readFlags mode ('-' :: seen) rest
    else if "imsURux".toList.contains char then
      readFlags (mode.switch char (!seen.contains '-')) (char :: seen) rest
    else none

def startsName (char : Char) : Bool := char == '_' || Text.isAlphabetic char

def continuesName (char : Char) : Bool :=
  "_.[]".toList.contains char || Text.isAlphanumeric char

def readName (text : List Char) : Option (List Char × List Char) :=
  let inName (char : Char) : Bool := char != '>'
  match text.takeWhile inName, text.dropWhile inName with
  | first :: others, _ :: rest =>
    if startsName first && others.all continuesName then some (first :: others, rest) else none
  | _, _ => none

structure GroupFrame where
  alternatives : List Nat := []
  parts : List Nat := []

namespace GroupFrame

def depth (frame : GroupFrame) : Nat := depthOf (depthOf frame.parts :: frame.alternatives)

def add (frame : GroupFrame) (depth : Nat) : GroupFrame :=
  { frame with parts := depth :: frame.parts }

def branch (frame : GroupFrame) : GroupFrame := ⟨depthOf frame.parts :: frame.alternatives, []⟩

def repeatLast (frame : GroupFrame) : GroupFrame :=
  match frame.parts with
  | [] => frame
  | depth :: parts => { frame with parts := (depth + 1) :: parts }

end GroupFrame

structure Progress where
  mode : Mode := {}
  frame : GroupFrame := {}
  around : List (Mode × GroupFrame) := []
  repeatable : Bool := false
  names : List (List Char) := []

namespace Progress

def enter (progress : Progress) (mode : Mode) : Progress :=
  { progress with
    mode := mode
    frame := {}
    around := (progress.mode, progress.frame) :: progress.around
    repeatable := false }

def enterNamed (progress : Progress) (text : List Char) : Option (Progress × List Char) := do
  let (name, rest) ← readName text
  if progress.names.contains name then none
  else some ({ progress.enter progress.mode with names := name :: progress.names }, rest)

def setFlags (progress : Progress) (mode : Mode) : Progress :=
  { progress with mode := mode, frame := progress.frame.add 0, repeatable := false }

def open? (progress : Progress) (text : List Char) : Option (Progress × List Char) :=
  match progress.mode.skip text with
  | '?' :: 'P' :: '<' :: rest => progress.enterNamed rest
  | '?' :: '<' :: rest => progress.enterNamed rest
  | '?' :: ')' :: _ => none
  | '?' :: rest => do
    let (mode, rest) ← readFlags progress.mode [] rest
    match rest with
    | ':' :: rest => some (progress.enter mode, rest)
    | _ :: rest => some (progress.setFlags mode, rest)
    | [] => none
  | rest => some (progress.enter progress.mode, rest)

def add (progress : Progress) (depth : Nat) : Progress :=
  { progress with frame := progress.frame.add depth, repeatable := true }

def close? (progress : Progress) : Option Progress :=
  match progress.around with
  | [] => none
  | (mode, frame) :: around =>
    let outer : Progress := { progress with mode := mode, frame := frame, around := around }
    some (outer.add (progress.frame.depth + 1))

def single (progress : Progress) (rest : List Char) : Progress × List Char :=
  (progress.add 0, rest)

def next? (progress : Progress) (char : Char) (rest : List Char) :
    Option (Progress × List Char) :=
  let mode := progress.mode
  match char with
  | '(' => progress.open? rest
  | ')' => progress.close?.map fun progress => (progress, rest)
  | '|' =>
    some ({ progress with frame := progress.frame.branch, repeatable := false }, rest)
  | '[' =>
    (readClass mode (3 * rest.length + 3) .opening {} [] rest).map fun (depth, rest) =>
      (progress.add depth, rest)
  | '\x7b' => none
  | '?' | '*' | '+' =>
    let repeated := { progress with frame := progress.frame.repeatLast }
    if progress.repeatable then
      match rest with
      | '?' :: rest => some (repeated, rest)
      | rest => some (repeated, rest)
    else none
  | '\\' => do
    let (escape, rest) ← readEscape mode rest
    if escape.admitted mode then some (progress.single rest) else none
  | '.' => if mode.unicode then some (progress.single rest) else none
  | '^' | '$' => some (progress.single rest)
  | char =>
    if (Escape.literal char false).admitted mode then some (progress.single rest) else none

def run : Nat → Progress → List Char → Option Progress
  | 0, _, _ => none
  | fuel + 1, progress, text =>
    match progress.mode.skip text with
    | [] => some progress
    | char :: rest => do
      let (progress, rest) ← progress.next? char rest
      run fuel progress rest

def isComplete (progress : Progress) : Bool :=
  progress.around.isEmpty && decide (progress.frame.depth ≤ depthLimit)

end Progress

def isWellFormed (text : List Char) : Bool :=
  match Progress.run (text.length + 1) {} text with
  | some progress => progress.isComplete
  | none => false

/-! Numbers, which are compared as such -/

def isSign (char : Char) : Bool := char == '+' || char == '-'

def dropSign : List Char → List Char
  | [] => []
  | char :: rest => if isSign char then rest else char :: rest

def isExponent : List Char → Bool
  | [] => true
  | char :: rest =>
    let digits := dropSign rest
    (char == 'e' || char == 'E') && !digits.isEmpty && digits.all Char.isDigit

def isNumber (text : List Char) : Bool :=
  let unsigned := dropSign text
  let whole := unsigned.takeWhile Char.isDigit
  let (part, rest) := match unsigned.dropWhile Char.isDigit with
    | '.' :: rest => (rest.takeWhile Char.isDigit, rest.dropWhile Char.isDigit)
    | rest => ([], rest)
  ["inf", "infinity", "nan"].contains (String.ofList (unsigned.map Char.toLower)) ||
    (!(whole.isEmpty && part.isEmpty) && isExponent rest)

end Pattern

end Boundary
