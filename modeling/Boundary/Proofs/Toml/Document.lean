import Boundary.Proofs.Toml.Format
import Boundary.Proofs.Toml.Quotation
import Boundary.Toml.Document

/-!
Documents of headers and assignments, line by line. Main statement: a line that starts with a bare word
and assigns a value that can be read is one statement, before those of the lines after it.
-/

namespace Boundary.Toml

theorem isKeyChar_of_isAlphanum {char : Char} (plain : char.isAlphanum = true) :
    isKeyChar char = true := by
  have spelled : char.isAlphanum =
      ((decide ('A' ≤ char ∧ char ≤ 'Z') || (decide ('a' ≤ char) && decide (char ≤ 'z'))) || isDecimal char) := rfl
  rw [spelled, Bool.or_eq_true, Bool.or_eq_true, decide_eq_true_eq] at plain
  rcases plain with (capital | small) | digit
  · simp [isKeyChar, isAsciiLetter, capital]
  · simp [isKeyChar, isAsciiLetter, small]
  · simp [isKeyChar, digit]

theorem IsWord.keyChars {key : String} (word : IsWord key) :
    ∀ char ∈ key.toList, isKeyChar char = true := by
  intro char member
  rcases word.chars char member with plain | rfl | rfl
  · exact isKeyChar_of_isAlphanum plain
  · rfl
  · rfl

theorem ne_of_isKeyChar {char : Char} (word : isKeyChar char = true) (other : Char)
    (mark : isKeyChar other = false) : char ≠ other := by
  rintro rfl
  rw [word] at mark
  cases mark

theorem IsWord.exists_cons {key : String} (word : IsWord key) :
    ∃ char rest, key.toList = char :: rest ∧ isKeyChar char = true := by
  obtain ⟨char, rest, same⟩ := List.exists_cons_of_ne_nil word.nonempty
  exact ⟨char, rest, same, word.keyChars char (same ▸ List.mem_cons_self)⟩

section Key

variable {key : String} {next : Char} {rest : List Char}

theorem skipBlanks_of_isKeyChar {char : Char} (word : isKeyChar char = true) (rest : List Char) :
    skipBlanks (char :: rest) = char :: rest := by
  have space := ne_of_isKeyChar word ' ' (by decide)
  have tab := ne_of_isKeyChar word '\t' (by decide)
  have plain : isBlank char = false := by simp [isBlank, space, tab]
  simp [skipBlanks, plain]

theorem readPart_word (word : IsWord key) (ends : isKeyChar next = false) (rest : List Char) :
    readPart (key.toList ++ next :: rest) = some (key.toList, next :: rest) := by
  obtain ⟨char, more, same, first⟩ := word.exists_cons
  have double := ne_of_isKeyChar first '"' (by decide)
  have single := ne_of_isKeyChar first '\'' (by decide)
  have taken : (key.toList ++ next :: rest).takeWhile isKeyChar = key.toList := by
    rw [List.takeWhile_append_of_pos word.keyChars]
    simp [ends]
  have dropped : (key.toList ++ next :: rest).dropWhile isKeyChar = next :: rest := by
    rw [List.dropWhile_append_of_pos word.keyChars]
    simp [ends]
  rw [same, List.cons_append] at taken dropped ⊢
  unfold readPart
  split
  · simp_all
  · simp_all
  · rw [taken, dropped]

theorem readKey_word (word : IsWord key) (ends : isKeyChar next = false)
    (last : (skipBlanks (next :: rest)).head? ≠ some '.') :
    readKey (key.toList ++ next :: rest) = some ([key], skipBlanks (next :: rest)) := by
  obtain ⟨char, more, same, first⟩ := word.exists_cons
  have start : skipBlanks (key.toList ++ next :: rest) = key.toList ++ next :: rest := by
    rw [same, List.cons_append, skipBlanks_of_isKeyChar first]
  change readParts (78 + 1) _ = _
  rw [readParts, start, readPart_word word ends rest]
  simp only [Option.bind_eq_bind, Option.bind_some, String.ofList_toList]
  split
  · rename_i dotted
    rw [dotted] at last
    exact absurd rfl last
  · rfl

end Key

theorem readLineEnd_newline (rest : List Char) : readLineEnd ('\n' :: rest) = some rest := by
  simp [readLineEnd, skipBlanks, isBlank]

theorem readStatement_header {key : String} (word : IsWord key) (rest : List Char) :
    readStatement ('[' :: (key.toList ++ ']' :: '\n' :: rest)) = some (.header [key], rest) := by
  obtain ⟨char, more, same, first⟩ := word.exists_cons
  have bracket := ne_of_isKeyChar first '[' (by decide)
  have last : (skipBlanks (']' :: '\n' :: rest)).head? ≠ some '.' :=
    fun dotted => absurd (Option.some.inj dotted) (by decide)
  have found := readKey_word word (show isKeyChar ']' = false by decide) last
  rw [same, List.cons_append] at found ⊢
  rw [readStatement]
  · rw [found]
    simp [skipBlanks, isBlank, readLineEnd_newline]
  · rintro _ doubled
    exact bracket (List.cons.inj doubled).1

structure Denotes (value : List Char) (node : Draft) : Prop where
  start : ∀ rest, skipBlanks (value ++ '\n' :: rest) = value ++ '\n' :: rest
  read : ∀ rest,
    readValue (depthLimit - 1) (value ++ '\n' :: rest) = some (node, '\n' :: rest)

theorem readStatement_assignment {key : String} {value : List Char} {node : Draft} (word : IsWord key)
    (denotes : Denotes value node) (rest : List Char) :
    readStatement (key.toList ++ ' ' :: '=' :: ' ' :: (value ++ '\n' :: rest)) =
      some (.assignment [key] node, rest) := by
  obtain ⟨char, more, same, first⟩ := word.exists_cons
  have bracket := ne_of_isKeyChar first '[' (by decide)
  have equals (text : List Char) : skipBlanks (' ' :: '=' :: text) = '=' :: text := rfl
  have space (text : List Char) : skipBlanks (' ' :: text) = skipBlanks text := rfl
  have found : readKey (key.toList ++ ' ' :: '=' :: ' ' :: (value ++ '\n' :: rest)) =
      some ([key], '=' :: ' ' :: (value ++ '\n' :: rest)) := by
    have last (text : List Char) : (skipBlanks (' ' :: '=' :: text)).head? ≠ some '.' :=
      fun dotted => absurd (Option.some.inj dotted) (by decide)
    rw [readKey_word word (by decide) (last _), equals]
  have pair : readPair (readValue (depthLimit - 1))
      (key.toList ++ ' ' :: '=' :: ' ' :: (value ++ '\n' :: rest)) =
        some (([key], node), '\n' :: rest) := by
    rw [readPair, found]
    simp [space, denotes.start, denotes.read]
  rw [same, List.cons_append] at pair ⊢
  unfold readStatement
  split
  · simp_all
  · simp_all
  · rw [pair]
    simp [readLineEnd_newline]

def Describes (text : List Char) (statements : List Statement) : Prop :=
  ∀ fuel, text.length < fuel → readStatements fuel text = some statements

namespace Describes

variable {rest : List Char} {statements : List Statement}

theorem nil : Describes [] [] := by
  intro fuel enough
  cases fuel with
  | zero => cases enough
  | succ fuel => rfl

theorem emptyLine (later : Describes rest statements) : Describes ('\n' :: rest) statements := by
  intro fuel enough
  cases fuel with
  | zero => cases enough
  | succ fuel =>
      have blank : skipBlanks ('\n' :: rest) = '\n' :: rest := rfl
      rw [readStatements, blank]
      exact later fuel (Nat.lt_of_succ_lt_succ enough)

theorem line {char : Char} {text : List Char} {statement : Statement}
    (start : skipBlanks (char :: text) = char :: text) (full : char ≠ '\n') (comment : char ≠ '#')
    (read : readStatement (char :: text) = some (statement, rest))
    (shorter : rest.length ≤ text.length) (later : Describes rest statements) :
    Describes (char :: text) (statement :: statements) := by
  intro fuel enough
  cases fuel with
  | zero => cases enough
  | succ fuel =>
      have enoughLater : rest.length < fuel :=
        Nat.lt_of_le_of_lt shorter (Nat.lt_of_succ_lt_succ enough)
      rw [readStatements, start]
      split
      · simp_all
      · simp_all
      · simp_all
      · rw [read]
        simp [later fuel enoughLater]

theorem header {key : String} (word : IsWord key) (later : Describes rest statements) :
    Describes ('[' :: (key.toList ++ ']' :: '\n' :: rest)) (.header [key] :: statements) := by
  apply line rfl (by decide) (by decide) (readStatement_header word rest) _ later
  simp only [List.length_append, List.length_cons]
  omega

theorem assignment {key : String} {value : List Char} {node : Draft} (word : IsWord key)
    (denotes : Denotes value node) (later : Describes rest statements) :
    Describes (key.toList ++ ' ' :: '=' :: ' ' :: (value ++ '\n' :: rest))
      (.assignment [key] node :: statements) := by
  obtain ⟨char, more, same, first⟩ := word.exists_cons
  have read := readStatement_assignment word denotes rest
  rw [same, List.cons_append] at read ⊢
  apply line (skipBlanks_of_isKeyChar first _) (ne_of_isKeyChar first _ (by decide))
    (ne_of_isKeyChar first _ (by decide)) read _ later
  simp only [List.length_append, List.length_cons]
  omega

end Describes

section Values

theorem readValue_of_readText {depth : Nat} {text value rest : List Char}
    (read : readText text = some (value, rest)) :
    readValue depth text = some (.string (String.ofList value), rest) := by
  have quoted : readValue.readQuoted depth text = some (.string (String.ofList value), rest) := by
    rw [readValue.readQuoted, read]
    rfl
  unfold readText at read
  split at read
  · rwa [readValue]
  · rwa [readValue]
  · rwa [readValue]
  · rwa [readValue]
  · cases read

theorem denotes_string (text : String) :
    Denotes (writeAs (Form.of text.toList) text.toList) (.string text) where
  start rest := by
    cases form : Form.of text.toList <;> rfl
  read rest := by
    rw [readValue_of_readText (readText_written text.toList rest), String.ofList_toList]

theorem denotes_boolean (value : Bool) :
    Denotes (if value then "true".toList else "false".toList) (.boolean value) where
  start rest := by
    cases value <;> rfl
  read rest := by
    cases value <;> rfl

end Values

theorem unifyLineEnds_of_notMem {text : List Char} (clean : '\r' ∉ text) :
    unifyLineEnds text = text := by
  induction text with
  | nil => rfl
  | cons char text ih =>
      simp only [List.mem_cons, not_or] at clean
      cases text with
      | nil => rfl
      | cons next text =>
          rw [unifyLineEnds, ih clean.2]
          · intro empty
            cases empty
          · rintro _ same _
            exact clean.1 same.symm

/-- A document without carriage returns and marks is what its statements make of an empty table. -/
theorem drafts?_of_describes {text : String} {statements : List Statement}
    (clean : '\r' ∉ text.toList) (unmarked : text.toList.head? ≠ some '\ufeff')
    (describes : Describes text.toList statements) :
    drafts? text = (statements.foldlM Progress.carryOut {}).map Progress.entries := by
  have whole : dropMark text.toList = text.toList := by
    unfold dropMark
    split
    · rename_i marked
      rw [marked] at unmarked
      exact absurd rfl unmarked
    · rfl
  rw [drafts?, whole, unifyLineEnds_of_notMem clean, describes _ (Nat.lt_succ_self _)]
  simp only [Option.bind_eq_bind, Option.bind_some]
  cases statements.foldlM Progress.carryOut {} <;> rfl

end Boundary.Toml
