import Boundary.Toml.Quotation
import Boundary.Toml.Scalar

/-!
Reading a whole document: lines are read one after the other, each a header or an assignment, and
then carried out in order on an empty table.
-/

namespace Boundary.Toml

def depthLimit : Nat := 80

def isKeyChar (char : Char) : Bool :=
  isDecimal char || isAsciiLetter char || char == '-' || char == '_'

def skipBlanks (text : List Char) : List Char := text.dropWhile isBlank

def readPart : Reader (List Char)
  | '"' :: rest => readBasic rest
  | '\'' :: rest => readLiteral rest
  | text =>
    match text.takeWhile isKeyChar with
    | [] => none
    | word => some (word, text.dropWhile isKeyChar)

def readParts : Nat → Reader (List String)
  | 0, _ => none
  | fuel + 1, text => do
    let (part, rest) ← readPart (skipBlanks text)
    match skipBlanks rest with
    | '.' :: rest => do
      let (parts, rest) ← readParts fuel rest
      some (String.ofList part :: parts, rest)
    | rest => some ([String.ofList part], rest)

def readKey : Reader (List String) := readParts (depthLimit - 1)

def skipTrivia : Bool → List Char → List Char
  | _, [] => []
  | inComment, char :: rest =>
    if char = '\n' then skipTrivia false rest
    else if inComment && isInline char then skipTrivia true rest
    else if isBlank char then skipTrivia false rest
    else if char = '#' then skipTrivia true rest
    else char :: rest

def readItems (readItem : Reader Draft) : Nat → Reader (List Draft)
  | 0, _ => none
  | fuel + 1, text =>
    match skipTrivia false text with
    | ']' :: rest => some ([], rest)
    | text => do
      let (item, rest) ← readItem text
      match skipTrivia false rest with
      | ']' :: rest => some ([item], rest)
      | ',' :: rest => do
        let (items, rest) ← readItems readItem fuel rest
        some (item :: items, rest)
      | _ => none

def readPair (readItem : Reader Draft) : Reader (List String × Draft) := fun text => do
  let (key, rest) ← readKey text
  match rest with
  | '=' :: rest => do
    let (item, rest) ← readItem (skipBlanks rest)
    some ((key, item), rest)
  | _ => none

def readPairs (readItem : Reader Draft) : Nat → Reader (List (List String × Draft))
  | 0, _ => none
  | fuel + 1, text => do
    let (pair, rest) ← readPair readItem text
    match skipBlanks rest with
    | '\x7d' :: rest => some ([pair], rest)
    | ',' :: rest => do
      let (pairs, rest) ← readPairs readItem fuel rest
      some (pair :: pairs, rest)
    | _ => none

def assignPath (path : List String) (node : Draft) (origin : Origin) (entries : Drafts) :
    Option Drafts := do
  let key ← path.getLast?
  assign path.dropLast key node origin entries

def inlineTable? (pairs : List (List String × Draft)) : Option Draft := do
  let entries ← pairs.foldlM (fun entries pair => assignPath pair.1 pair.2 .inline entries) []
  some (.table .inline entries)

def readScalar : Reader Draft := fun text =>
  let word := text.takeWhile isScalarChar
  let rest := text.dropWhile isScalarChar
  match isDate word, rest with
  | true, ' ' :: after =>
    let time := after.takeWhile isScalarChar
    if isTimeWithOffset time then
      some (.moment (String.ofList (word ++ ' ' :: time)), after.dropWhile isScalarChar)
    else
      some (.moment (String.ofList word), rest)
  | _, _ => (scalar? word).map (·, rest)

def readValue : Nat → Reader Draft
  | depth, '"' :: rest => readQuoted depth ('"' :: rest)
  | depth, '\'' :: rest => readQuoted depth ('\'' :: rest)
  | 0, '[' :: _ => none
  | 0, '\x7b' :: _ => none
  | depth + 1, '[' :: rest => do
    let (items, rest) ← readItems (readValue depth) (rest.length + 1) rest
    some (.array items, rest)
  | depth + 1, '\x7b' :: rest =>
    match skipBlanks rest with
    | '\x7d' :: rest => some (.table .inline [], rest)
    | rest => do
      let (pairs, rest) ← readPairs (readValue depth) (rest.length + 1) rest
      let table ← inlineTable? pairs
      some (table, rest)
  | _, text => readScalar text
where
  readQuoted (_ : Nat) (text : List Char) : Option (Draft × List Char) :=
    (readText text).map fun (text, rest) => (.string (String.ofList text), rest)

inductive Statement where
  | header (path : List String)
  | nextHeader (path : List String)
  | assignment (path : List String) (node : Draft)

def readLineEnd (text : List Char) : Option (List Char) :=
  let rest :=
    match skipBlanks text with
    | '#' :: rest => rest.dropWhile isInline
    | rest => rest
  match rest with
  | [] => some []
  | '\n' :: rest => some rest
  | _ => none

def readStatement : Reader Statement
  | '[' :: '[' :: rest => do
    let (path, rest) ← readKey rest
    match rest with
    | ']' :: ']' :: rest => (readLineEnd rest).map (.nextHeader path, ·)
    | _ => none
  | '[' :: rest => do
    let (path, rest) ← readKey rest
    match rest with
    | ']' :: rest => (readLineEnd rest).map (.header path, ·)
    | _ => none
  | text => do
    let ((path, node), rest) ← readPair (readValue (depthLimit - 1)) text
    (readLineEnd rest).map (.assignment path node, ·)

def readStatements : Nat → List Char → Option (List Statement)
  | 0, _ => none
  | fuel + 1, text =>
    match skipBlanks text with
    | [] => some []
    | '\n' :: rest => readStatements fuel rest
    | '#' :: rest => do
      let rest ← readLineEnd ('#' :: rest)
      readStatements fuel rest
    | text => do
      let (statement, rest) ← readStatement text
      let statements ← readStatements fuel rest
      some (statement :: statements)

structure Progress where
  current : List String := []
  entries : Drafts := []

namespace Progress

def openAt (progress : Progress) (path : List String)
    (change : String → Origin → Drafts → Option Drafts) : Option Progress := do
  let key ← path.getLast?
  let entries ← descend false (change key) path.dropLast .header progress.entries
  some ⟨path, entries⟩

def carryOut (progress : Progress) : Statement → Option Progress
  | .header path => progress.openAt path openTable
  | .nextHeader path => progress.openAt path openNext
  | .assignment path node => do
    let entries ← descend false (assignPath path node) progress.current .header progress.entries
    some { progress with entries := entries }

end Progress

def unifyLineEnds : List Char → List Char
  | [] => []
  | [char] => [char]
  | '\r' :: '\n' :: rest => '\n' :: unifyLineEnds rest
  | char :: rest => char :: unifyLineEnds rest

def dropMark : List Char → List Char
  | '\ufeff' :: rest => rest
  | text => text

def drafts? (text : String) : Option Drafts := do
  let chars := unifyLineEnds (dropMark text.toList)
  let statements ← readStatements (chars.length + 1) chars
  let progress ← statements.foldlM Progress.carryOut {}
  some progress.entries

end Boundary.Toml
