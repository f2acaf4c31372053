import Boundary.Toml.Quotation

/-!
Texts between quotes come back as they were written. Main statement: whatever form a text is given, it
is read as that text when a line break follows.
-/

namespace Boundary.Toml

section Escapes

theorem fourHex_of_ascii : ∀ code < 0x80, (fourHex code).length = 4 ∧
    Text.charOfHex? (fourHex code) = some (Char.ofNat code) ∧ '\n' ∉ fourHex code ∧
      '\r' ∉ fourHex code := by
  decide

theorem toNat_of_isControl {char : Char} (control : isControl char = true) : char.toNat < 0x80 := by
  simp only [isControl, Bool.or_eq_true, Bool.and_eq_true, decide_eq_true_eq, beq_iff_eq] at control
  rcases control with ⟨⟨low, _⟩, _⟩ | rfl
  · omega
  · decide

theorem readEscape_fourHex {char : Char} (control : isControl char = true) (rest : List Char) :
    readEscape ('u' :: fourHex char.toNat ++ rest) = some (char, rest) := by
  obtain ⟨four, code, _⟩ := fourHex_of_ascii char.toNat (toNat_of_isControl control)
  rw [Char.ofNat_toNat] at code
  have long : 4 ≤ (fourHex char.toNat ++ rest).length := by
    rw [List.length_append]
    omega
  have digits : (fourHex char.toNat ++ rest).take 4 = fourHex char.toNat := by
    rw [← four, List.take_left]
  have after : (fourHex char.toNat ++ rest).drop 4 = rest := by
    rw [← four, List.drop_left]
  have read : readCode 4 (fourHex char.toNat ++ rest) = some (char, rest) := by
    rw [readCode, if_neg (Nat.not_lt.2 long), digits, after, code, Option.map_some]
  simpa [readEscape] using read

/-- What stands for a character between double quotes: the character itself, or a backslash and a mark
from which it is read. -/
inductive Stands (char : Char) : List Char → Prop
  | plain (inline : isInline char = true) (quote : char ≠ '"') (backslash : char ≠ '\\') :
      Stands char [char]
  | escaped (mark : Char) (digits : List Char) (blank : isBlank mark = false)
      (oneLine : '\n' ∉ mark :: digits) (carriage : '\r' ∉ mark :: digits)
      (read : ∀ rest, readEscape (mark :: digits ++ rest) = some (char, rest)) :
      Stands char ('\\' :: mark :: digits)

theorem stands_escape (char : Char) : Stands char (escape char) := by
  unfold escape
  -- Seven characters have a mark of their own.
  iterate 7
    split
    · subst char
      exact .escaped _ [] rfl (by decide) (by decide) fun _ => rfl
  split
  · rename_i control
    obtain ⟨_, _, oneLine, carriage⟩ := fourHex_of_ascii char.toNat (toNat_of_isControl control)
    exact .escaped 'u' _ rfl (by simp [oneLine]) (by simp [carriage]) (readEscape_fourHex control)
  · rename_i line _ _ quote backslash uncontrolled
    refine .plain ?_ quote backslash
    simp [isInline, uncontrolled, line]

theorem notMem_escape (char : Char) : '\n' ∉ escape char ∧ '\r' ∉ escape char := by
  generalize escape char = written, stands_escape char = stands
  cases stands with
  | plain inline quote backslash =>
      constructor <;>
        · intro member
          rw [List.mem_singleton] at member
          subst member
          revert inline
          decide
  | escaped mark digits blank oneLine carriage read =>
      constructor <;> simp_all

end Escapes

section Basic

theorem readBasic_escape {char : Char} {text after : List Char}
    (read : readEscape text = some (char, after)) :
    readBasic ('\\' :: text) = push char (readBasic after) := by
  rw [readBasic]
  simp only [Char.reduceEq, if_false, if_true]
  split
  · rename_i found
    rw [read] at found
    cases found
    rfl
  · rename_i missing
    rw [read] at missing
    cases missing

theorem readBasic_plain {char : Char} (inline : isInline char = true) (quote : char ≠ '"')
    (backslash : char ≠ '\\') (rest : List Char) :
    readBasic (char :: rest) = push char (readBasic rest) := by
  rw [readBasic, if_neg quote, if_neg backslash, if_pos inline]

theorem readBasic_of_stands {char : Char} {written : List Char} (stands : Stands char written)
    (rest : List Char) : readBasic (written ++ rest) = push char (readBasic rest) := by
  cases stands with
  | plain inline quote backslash => exact readBasic_plain inline quote backslash rest
  | escaped mark digits blank oneLine carriage read => exact readBasic_escape (read rest)

theorem readBasic_written (text rest : List Char) :
    readBasic (text.flatMap escape ++ '"' :: rest) = some (text, rest) := by
  induction text with
  | nil => simp [readBasic]
  | cons char text ih =>
      rw [List.flatMap_cons, List.append_assoc, readBasic_of_stands (stands_escape char), ih]
      rfl

theorem readLiteral_written {text : List Char} (inline : text.all isInline = true)
    (unquoted : '\'' ∉ text) (rest : List Char) :
    readLiteral (text ++ '\'' :: rest) = some (text, rest) := by
  induction text with
  | nil => simp [readLiteral]
  | cons char text ih =>
      simp only [List.all_cons, Bool.and_eq_true] at inline
      simp only [List.mem_cons, not_or] at unquoted
      have plain : char ≠ '\'' := Ne.symm unquoted.1
      rw [List.cons_append, readLiteral, if_neg plain, if_pos inline.1, ih inline.2 unquoted.2]
      rfl

end Basic

section Closing

variable {quote : Char}

theorem readClosing_of_ne {char : Char} (different : char ≠ quote) (rest : List Char) :
    readClosing quote (char :: rest) = none := by
  unfold readClosing
  split <;> simp_all

theorem readClosing_of_apart {first second third : Char}
    (apart : ¬ (first = quote ∧ second = quote ∧ third = quote)) (rest : List Char) :
    readClosing quote (first :: second :: third :: rest) = none := by
  match rest with
  | [] => simp only [readClosing, if_neg apart]
  | [fourth] => simp only [readClosing, if_neg apart]
  | fourth :: fifth :: rest => simp only [readClosing, if_neg apart]

theorem readClosing_append {body : List Char} (line : quote ≠ '\n')
    (apart : ¬ List.replicate 3 quote <+: body) (rest : List Char) :
    readClosing quote (body ++ quote :: quote :: quote :: '\n' :: rest) =
      if body.all (· == quote) then some (body, '\n' :: rest) else none := by
  match body with
  | [] => cases rest <;> simp [readClosing, line.symm]
  | [first] =>
      by_cases same : first = quote
      · simp [readClosing, same, line.symm]
      · simp [readClosing_of_ne same, same]
  | [first, second] =>
      by_cases same : first = quote
      · by_cases both : second = quote
        · simp [readClosing, same, both]
        · simp [readClosing, both]
      · simp [readClosing_of_ne same, same]
  | first :: second :: third :: more =>
      have different : ¬ (first = quote ∧ second = quote ∧ third = quote) := by
        rintro ⟨one, two, three⟩
        exact apart ⟨more, by rw [one, two, three]; rfl⟩
      have mixed : (first :: second :: third :: more).all (· == quote) ≠ true := by
        simp only [ne_eq, List.all_cons, Bool.and_eq_true, beq_iff_eq]
        exact fun whole => different ⟨whole.1, whole.2.1, whole.2.2.1⟩
      rw [if_neg mixed]
      exact readClosing_of_apart different _

end Closing

section Runs

variable {quote : Char}

theorem replicate_isPrefix_of_le {fewer more : Nat} {text : List Char} (le : fewer ≤ more)
    (quotes : List.replicate more quote <+: text) : List.replicate fewer quote <+: text := by
  refine List.IsPrefix.trans ⟨List.replicate (more - fewer) quote, ?_⟩ quotes
  rw [List.replicate_append_replicate, Nat.add_sub_of_le le]

theorem replicate_isPrefix_cons_of_ne {count : Nat} {char : Char} (different : char ≠ quote)
    (text : List Char) : List.replicate count quote <+: char :: text ↔ count = 0 := by
  cases count with
  | zero => simp
  | succ count => simp [List.replicate_succ, Ne.symm different]

theorem le_longestRun_iff {count run : Nat} (text : List Char) :
    count ≤ longestRun quote run text ↔
      List.replicate (count - run) quote <+: text ∨ List.replicate count quote <:+: text := by
  induction text generalizing run with
  | nil =>
      simp only [longestRun, List.prefix_nil, List.infix_nil, List.replicate_eq_nil_iff]
      omega
  | cons char text ih =>
      rw [longestRun, List.infix_cons_iff]
      by_cases same : char = quote
      · have whole (quotes : List.replicate count quote <+: char :: text) :
            List.replicate (count - run) quote <+: char :: text :=
          replicate_isPrefix_of_le (Nat.sub_le count run) quotes
        have next : List.replicate (count - run) quote <+: char :: text ↔
            List.replicate (count - (run + 1)) quote <+: text := by
          by_cases reached : count ≤ run
          · simp [Nat.sub_eq_zero_of_le reached, Nat.sub_eq_zero_of_le (Nat.le_succ_of_le reached)]
          · have one : count - run = count - (run + 1) + 1 := by omega
            rw [one, List.replicate_succ, same, List.cons_prefix_cons, and_iff_right rfl]
        rw [if_pos same, ih, ← or_assoc, or_iff_left_of_imp whole, next]
      · have either : count ≤ max run (longestRun quote 0 text) ↔
            count ≤ run ∨ count ≤ longestRun quote 0 text := by omega
        rw [if_neg same, either, ih, Nat.sub_zero, or_iff_right_of_imp List.IsPrefix.isInfix,
          replicate_isPrefix_cons_of_ne same, replicate_isPrefix_cons_of_ne same,
          Nat.sub_eq_zero_iff_le]
        have none : count = 0 → List.replicate count quote <:+: text := by
          rintro rfl
          exact List.nil_infix
        rw [or_iff_right_of_imp none]

theorem le_longestRun_zero_iff {count : Nat} (text : List Char) :
    count ≤ longestRun quote 0 text ↔ List.replicate count quote <:+: text := by
  rw [le_longestRun_iff, Nat.sub_zero, or_iff_right_of_imp List.IsPrefix.isInfix]

theorem run_writeLong_le {run count : Nat} (text : List Char) (small : run ≤ 2)
    (quotes : List.replicate count '"' <+: writeLong run text) : run + count ≤ 2 := by
  induction text generalizing run count with
  | nil =>
      rw [writeLong, List.prefix_nil, List.replicate_eq_nil_iff] at quotes
      omega
  | cons char text ih =>
      cases count with
      | zero => exact small
      | succ count =>
          rw [List.replicate_succ, writeLong] at quotes
          by_cases quoted : char = '"'
          · rw [if_pos quoted] at quotes
            split at quotes
            · exact absurd (List.cons_prefix_cons.1 quotes).1 (by decide)
            · rename_i room
              have further := ih (by omega) (List.cons_prefix_cons.1 quotes).2
              omega
          · rw [if_neg quoted] at quotes
            split at quotes
            · exact absurd (List.cons_prefix_cons.1 quotes).1 (by decide)
            · generalize escape char = written, stands_escape char = stands at quotes
              cases stands with
              | plain _ _ _ => exact absurd (List.cons_prefix_cons.1 quotes).1.symm quoted
              | escaped _ _ _ _ _ _ =>
                  exact absurd (List.cons_prefix_cons.1 quotes).1 (by decide)

theorem eq_writeLong_of_quotes {run : Nat} {text : List Char}
    (quotes : (writeLong run text).all (· == '"') = true) : text = writeLong run text := by
  induction text generalizing run with
  | nil => rfl
  | cons char text ih =>
      rw [writeLong] at quotes ⊢
      by_cases quoted : char = '"'
      · rw [if_pos quoted] at quotes ⊢
        split at quotes
        · simp at quotes
        · rename_i room
          rw [if_neg room, quoted]
          simp only [List.all_cons, Bool.and_eq_true] at quotes
          rw [← ih quotes.2]
      · rw [if_neg quoted] at quotes
        split at quotes
        · simp at quotes
        · generalize escape char = written, stands_escape char = stands at quotes
          cases stands with
          | plain _ _ _ => simp [quoted] at quotes
          | escaped _ _ _ _ _ _ => simp at quotes

end Runs

section Long

theorem readLongLiteral_written {text : List Char} (uncontrolled : text.any isControl = false)
    (apart : ¬ List.replicate 3 '\'' <:+: text) (rest : List Char) :
    readLongLiteral (text ++ '\'' :: '\'' :: '\'' :: '\n' :: rest) = some (text, '\n' :: rest) := by
  induction text with
  | nil =>
      have closing := readClosing_append (by decide) (mt List.IsPrefix.isInfix apart) rest
      simp only [List.all_nil, if_true, List.nil_append] at closing
      rw [List.nil_append, readLongLiteral, closing]
  | cons char text ih =>
      have closing := readClosing_append (by decide) (mt List.IsPrefix.isInfix apart) rest
      have apartLater : ¬ List.replicate 3 '\'' <:+: text :=
        fun quotes => apart (quotes.trans (List.suffix_cons char text).isInfix)
      simp only [List.any_cons, Bool.or_eq_false_iff] at uncontrolled
      rw [List.cons_append] at closing ⊢
      rw [readLongLiteral, closing]
      split
      · rename_i ends
        split at ends
        · exact ends.symm
        · cases ends
      · rw [if_neg (by simp [uncontrolled.1]), ih uncontrolled.2 apartLater]
        rfl

theorem readLongBasic_closing {text : List Char} {closing : List Char × List Char}
    (closed : readClosing '"' text = some closing) : readLongBasic text = some closing := by
  rw [readLongBasic.eq_def, closed]

theorem readLongBasic_plain {char : Char} {rest : List Char}
    (opened : readClosing '"' (char :: rest) = none) (backslash : char ≠ '\\')
    (uncontrolled : isControl char = false) :
    readLongBasic (char :: rest) = push char (readLongBasic rest) := by
  rw [readLongBasic.eq_def, opened]
  simp [backslash, uncontrolled]

theorem readLongBasic_escape {char : Char} {text after : List Char}
    (sameLine : nextLine? text = none) (read : readEscape text = some (char, after)) :
    readLongBasic ('\\' :: text) = push char (readLongBasic after) := by
  have opened : readClosing '"' ('\\' :: text) = none := readClosing_of_ne (by decide) text
  rw [readLongBasic.eq_def, opened]
  simp only [if_true]
  split
  · rename_i found
    rw [sameLine] at found
    cases found
  · split
    · rename_i found
      rw [read] at found
      cases found
      rfl
    · rename_i missing
      rw [read] at missing
      cases missing

theorem nextLine?_eq_none {mark : Char} (blank : isBlank mark = false) (line : mark ≠ '\n')
    (rest : List Char) : nextLine? (mark :: rest) = none := by
  have same : (mark :: rest).dropWhile isBlank = mark :: rest := by simp [blank]
  rw [nextLine?, same]
  split
  · simp_all
  · rfl

theorem readLongBasic_of_stands {char : Char} {written : List Char} (stands : Stands char written)
    (rest : List Char) : readLongBasic (written ++ rest) = push char (readLongBasic rest) := by
  cases stands with
  | plain inline quote backslash =>
      simp only [isInline, Bool.and_eq_true, Bool.not_eq_true'] at inline
      exact readLongBasic_plain (readClosing_of_ne quote rest) backslash inline.1
  | escaped mark digits blank oneLine carriage read =>
      have line : mark ≠ '\n' := fun same => oneLine (same ▸ List.mem_cons_self)
      exact readLongBasic_escape (nextLine?_eq_none blank line _) (read rest)

theorem readLongBasic_written {run : Nat} (text rest : List Char) (small : run ≤ 2) :
    readLongBasic (writeLong run text ++ '"' :: '"' :: '"' :: '\n' :: rest) =
      some (text, '\n' :: rest) := by
  induction text generalizing run with
  | nil =>
      apply readLongBasic_closing
      exact readClosing_append (by decide) (by simp [writeLong]) rest
  | cons char text ih =>
      have apart : ¬ List.replicate 3 '"' <+: writeLong run (char :: text) := by
        intro quotes
        have few := run_writeLong_le (char :: text) small quotes
        omega
      have closing := readClosing_append (by decide) apart rest
      by_cases quoted : char = '"'
      · by_cases full : run = 2
        · rw [writeLong, if_pos quoted, if_pos full, List.cons_append, List.cons_append,
            readLongBasic_escape (nextLine?_eq_none rfl (by decide) _) rfl, ih (Nat.zero_le 2), quoted]
          rfl
        · -- The quotes at the end of the text are read together with those that close it.
          split at closing
          · rename_i quotes
            rw [readLongBasic_closing closing, ← eq_writeLong_of_quotes quotes]
          · rw [writeLong, if_pos quoted, if_neg full, List.cons_append] at closing ⊢
            rw [readLongBasic_plain closing (by decide) (by decide), ih (by omega), quoted]
            rfl
      · by_cases line : char = '\n'
        · rw [writeLong, if_neg quoted, if_pos line, List.cons_append,
            readLongBasic_plain (readClosing_of_ne (by decide) _) (by decide) (by decide),
            ih (Nat.zero_le 2), line]
          rfl
        · rw [writeLong, if_neg quoted, if_neg line, List.append_assoc,
            readLongBasic_of_stands (stands_escape char), ih (Nat.zero_le 2)]
          rfl

end Long

section Form

theorem uncontrolled_of_literal {text : List Char} (form : Form.of text = .literal) :
    text.all isInline = true ∧ '\'' ∉ text := by
  simp only [Form.of] at form
  split at form
  · cases form
  · split at form
    · rename_i _ plain
      simp only [Bool.and_eq_true, Bool.not_eq_true', beq_iff_eq] at plain
      obtain ⟨⟨uncontrolled, unquoted⟩, oneLine⟩ := plain
      constructor
      · rw [List.all_eq_true]
        intro char member
        have inline : char ≠ '\n' := by
          rintro rfl
          simp [member] at oneLine
        simp [isInline, List.any_eq_false.1 uncontrolled char member, inline]
      · intro member
        obtain ⟨before, after, same⟩ := List.append_of_mem member
        have run : 1 ≤ longestRun '\'' 0 text := by
          rw [le_longestRun_zero_iff]
          exact ⟨before, after, by simp [same]⟩
        omega
    · repeat' split at form
      all_goals cases form

theorem uncontrolled_of_longLiteral {text : List Char} (form : Form.of text = .longLiteral) :
    text.any isControl = false ∧ ¬ List.replicate 3 '\'' <:+: text := by
  rw [← le_longestRun_zero_iff, Nat.not_le]
  simp only [Form.of] at form
  repeat' split at form
  all_goals cases form
  simp_all [Nat.lt_succ_iff]

theorem readText_basic {rest : List Char} (single : ¬ ['"', '"'] <+: rest) :
    readText ('"' :: rest) = readBasic rest := by
  unfold readText
  split <;> simp_all

theorem readText_literal {rest : List Char} (single : ¬ ['\'', '\''] <+: rest) :
    readText ('\'' :: rest) = readLiteral rest := by
  unfold readText
  split <;> simp_all

theorem dropLineBreak_opening {text body : List Char} (fresh : '\n' ∉ text → '\n' ∉ body)
    {quote : Char} (line : quote ≠ '\n') (rest : List Char) :
    dropLineBreak ((if text.contains '\n' then ['\n'] else []) ++ (body ++ quote :: rest)) =
      body ++ quote :: rest := by
  by_cases lines : '\n' ∈ text
  · simp [lines, dropLineBreak]
  · have oneLine := fresh lines
    simp only [List.contains_eq_mem, lines, decide_false, Bool.false_eq_true, if_false,
      List.nil_append]
    cases body with
    | nil => simp [dropLineBreak, line]
    | cons char body =>
        have first : char ≠ '\n' := fun same => oneLine (same ▸ List.mem_cons_self)
        simp [dropLineBreak, first]

theorem newline_mem_of_writeLong {run : Nat} {text : List Char}
    (member : '\n' ∈ writeLong run text) : '\n' ∈ text := by
  induction text generalizing run with
  | nil => cases member
  | cons char text ih =>
      rw [writeLong] at member
      repeat' split at member
      · simp only [List.mem_cons, Char.reduceEq, false_or] at member
        exact List.mem_cons_of_mem _ (ih member)
      · simp only [List.mem_cons, Char.reduceEq, false_or] at member
        exact List.mem_cons_of_mem _ (ih member)
      · rename_i line
        exact line ▸ List.mem_cons_self
      · have later := (List.mem_append.1 member).resolve_left (notMem_escape char).1
        exact List.mem_cons_of_mem _ (ih later)

theorem not_quotes_isPrefix (text rest : List Char) :
    ¬ ['"', '"'] <+: text.flatMap escape ++ '"' :: '\n' :: rest := by
  intro quotes
  cases text with
  | nil => simp at quotes
  | cons char text =>
      rw [List.flatMap_cons, List.append_assoc] at quotes
      generalize escape char = written, stands_escape char = stands at quotes
      cases stands with
      | plain _ quote _ => exact quote (List.cons_prefix_cons.1 quotes).1.symm
      | escaped _ _ _ _ _ _ => exact absurd (List.cons_prefix_cons.1 quotes).1 (by decide)

/-- Every text is read back from the form that it is given, whatever it holds. -/
theorem readText_written (text rest : List Char) :
    readText (writeAs (Form.of text) text ++ '\n' :: rest) = some (text, '\n' :: rest) := by
  cases form : Form.of text with
  | basic =>
      simp only [writeAs, List.cons_append, List.append_assoc, List.nil_append]
      rw [readText_basic (not_quotes_isPrefix text rest), readBasic_written]
  | literal =>
      obtain ⟨inline, unquoted⟩ := uncontrolled_of_literal form
      have single : ¬ ['\'', '\''] <+: text ++ '\'' :: '\n' :: rest := by
        intro quotes
        cases text with
        | nil => simp at quotes
        | cons char text => exact unquoted (List.mem_cons.2 (.inl (List.cons_prefix_cons.1 quotes).1))
      simp only [writeAs, List.cons_append, List.append_assoc, List.nil_append]
      rw [readText_literal single, readLiteral_written inline unquoted]
  | longBasic =>
      simp only [writeAs, opening, List.cons_append, List.append_assoc, List.nil_append, readText]
      rw [dropLineBreak_opening (mt newline_mem_of_writeLong) (by decide)]
      exact readLongBasic_written text rest (Nat.zero_le 2)
  | longLiteral =>
      obtain ⟨uncontrolled, apart⟩ := uncontrolled_of_longLiteral form
      simp only [writeAs, opening, List.cons_append, List.append_assoc, List.nil_append, readText]
      rw [dropLineBreak_opening id (by decide)]
      exact readLongLiteral_written uncontrolled apart rest

theorem carriage_notMem_writeLong (run : Nat) (text : List Char) : '\r' ∉ writeLong run text := by
  induction text generalizing run with
  | nil => exact List.not_mem_nil
  | cons char text ih =>
      rw [writeLong]
      repeat' split
      · simp [ih]
      · simp [ih]
      · simp [ih]
      · simp [ih, notMem_escape char]

theorem carriage_notMem_of_uncontrolled {text : List Char} (uncontrolled : text.any isControl = false) :
    '\r' ∉ text :=
  fun member => absurd (List.any_eq_false.1 uncontrolled _ member) (by decide)

theorem carriage_notMem_written (text : List Char) : '\r' ∉ writeAs (Form.of text) text := by
  cases form : Form.of text with
  | basic => simp [writeAs, notMem_escape]
  | literal =>
      have inline := (uncontrolled_of_literal form).1
      have clean : '\r' ∉ text :=
        fun member => absurd (List.all_eq_true.1 inline _ member) (by decide)
      simp [writeAs, clean]
  | longBasic =>
      simp only [writeAs, opening]
      split <;> simp [carriage_notMem_writeLong]
  | longLiteral =>
      have clean := carriage_notMem_of_uncontrolled (uncontrolled_of_longLiteral form).1
      simp only [writeAs, opening]
      split <;> simp [clean]

end Form

end Boundary.Toml
