import Boundary.Proofs.Toml.Document
import Boundary.Proofs.Toml.Keys

/-!
Writing and reading in the format that is written out. Main statement: what its writer writes is read
back, and without a limit on quotes it writes everything.
-/

namespace Boundary.Toml

def Scalar.draft : Scalar → Draft
  | .text value => .string value
  | .flag value => .boolean value

def Section.drafts (settings : Section) : Drafts :=
  settings.filterMap fun setting => setting.2.map fun value => (setting.1, value.draft)

def Section.statements (settings : Section) : List Statement :=
  settings.drafts.map fun entry => .assignment [entry.1] entry.2

def Sections.drafts (sections : Sections) : Drafts :=
  sections.map fun entry => (entry.1, .table .header entry.2.drafts)

def Sections.statements (sections : Sections) : List Statement :=
  sections.flatMap fun entry => .header [entry.1] :: entry.2.statements

section Written

variable {limit : Option Nat}

theorem Scalar.denotes {value : Scalar} {written : List Char}
    (found : value.written limit = .ok written) : Denotes written value.draft ∧ '\r' ∉ written := by
  cases value with
  | text text =>
      rw [Scalar.written] at found
      split at found
      · cases found
        exact ⟨denotes_string text, carriage_notMem_written text.toList⟩
      · cases found
  | flag value =>
      cases found
      refine ⟨denotes_boolean value, ?_⟩
      cases value <;> decide

theorem describes_line {key : String} {value rest : List Char} {draft : Draft}
    {statements : List Statement} (word : IsWord key) (denotes : Denotes value draft)
    (later : Describes rest statements) :
    Describes (line key value ++ rest) (.assignment [key] draft :: statements) := by
  have spaced : " = ".toList = [' ', '=', ' '] := rfl
  simp only [line, spaced, List.append_assoc, List.cons_append, List.nil_append]
  exact .assignment word denotes later

theorem IsWord.carriage_notMem {key : String} (word : IsWord key) : '\r' ∉ key.toList :=
  fun member => absurd (word.keyChars _ member) (by decide)

theorem carriage_notMem_line {key : String} {value : List Char} (word : IsWord key)
    (clean : '\r' ∉ value) : '\r' ∉ line key value := by
  simp [line, word.carriage_notMem, clean]

theorem Section.describes {settings : Section} {lines : List Char}
    (words : ∀ setting ∈ settings, IsWord setting.1) (found : settings.written limit = .ok lines) :
    '\r' ∉ lines ∧ ∀ rest statements, Describes rest statements →
      Describes (lines ++ rest) (settings.statements ++ statements) := by
  induction settings generalizing lines with
  | nil =>
      cases found
      exact ⟨List.not_mem_nil, fun rest statements later => later⟩
  | cons setting rest ih =>
      obtain ⟨word, others⟩ := List.forall_mem_cons.1 words
      obtain ⟨key, _ | value⟩ := setting
      · exact ih others found
      · rw [Section.written] at found
        cases written : value.written limit with
        | error cause =>
            rw [written] at found
            cases found
        | ok text =>
            cases remaining : Section.written limit rest with
            | error cause =>
                rw [written, remaining] at found
                cases found
            | ok more =>
                rw [written, remaining] at found
                cases found
                obtain ⟨denotes, clean⟩ := Scalar.denotes written
                obtain ⟨cleanMore, describes⟩ := ih others remaining
                refine ⟨by simp [carriage_notMem_line word clean, cleanMore], ?_⟩
                intro after statements later
                rw [List.append_assoc]
                exact describes_line word denotes (describes after statements later)

theorem Sections.describes {sections : Sections} {lines : List Char}
    (names : ∀ entry ∈ sections, IsWord entry.1)
    (keys : ∀ entry ∈ sections, ∀ setting ∈ entry.2, IsWord setting.1)
    (found : sections.written limit = .ok lines) :
    '\r' ∉ lines ∧ lines.head? ≠ some '\ufeff' ∧ Describes lines sections.statements := by
  induction sections generalizing lines with
  | nil =>
      cases found
      exact ⟨List.not_mem_nil, by simp, .nil⟩
  | cons entry rest ih =>
      obtain ⟨name, settings⟩ := entry
      obtain ⟨word, names⟩ := List.forall_mem_cons.1 names
      obtain ⟨words, keys⟩ := List.forall_mem_cons.1 keys
      rw [Sections.written] at found
      cases written : Section.written limit settings with
      | error cause =>
          rw [written] at found
          cases found
      | ok body =>
          cases remaining : Sections.written limit rest with
          | error cause =>
              rw [written, remaining] at found
              cases found
          | ok others =>
              rw [written, remaining] at found
              cases found
              obtain ⟨cleanBody, describes⟩ := Section.describes words written
              obtain ⟨cleanOthers, _, later⟩ := ih names keys remaining
              have ending : "]\n".toList = [']', '\n'] := rfl
              refine ⟨?_, by simp, ?_⟩
              · cases rest <;> simp [ending, word.carriage_notMem, cleanBody, cleanOthers]
              · simp only [ending, List.append_assoc, List.cons_append, List.nil_append]
                apply Describes.header word
                apply describes
                cases rest with
                | nil => exact later
                | cons _ _ => exact .emptyLine later

end Written

section CarriedOut

variable {name : String} {before : Drafts}

theorem Drafts.find?_last (fresh : ∀ entry ∈ before, entry.1 ≠ name) (draft : Draft) :
    Drafts.find? (before ++ [(name, draft)]) name = some draft := by
  have missing : before.lookup name = none :=
    List.lookup_eq_none_iff.2 fun entry there => by simpa using (fresh entry there).symm
  simp [Drafts.find?, List.lookup_append, missing]

theorem Drafts.replace_last (fresh : ∀ entry ∈ before, entry.1 ≠ name) (draft other : Draft) :
    Drafts.replace (before ++ [(name, draft)]) name other = before ++ [(name, other)] := by
  have kept : before.map (fun entry => if entry.1 = name then (name, other) else entry) = before := by
    calc
      _ = before.map id := List.map_congr_left fun entry there => if_neg (fresh entry there)
      _ = before := List.map_id before
  simp [Drafts.replace, kept]

theorem Drafts.insertNew?_of_fresh (fresh : ∀ entry ∈ before, entry.1 ≠ name) (draft : Draft) :
    before.insertNew? name draft = some (before ++ [(name, draft)]) := by
  have missing : before.lookup name = none :=
    List.lookup_eq_none_iff.2 fun entry there => by simpa using (fresh entry there).symm
  simp [Drafts.insertNew?, Drafts.find?, missing]

theorem carryOut_header (fresh : ∀ entry ∈ before, entry.1 ≠ name) (path : List String) :
    Progress.carryOut ⟨path, before⟩ (.header [name]) =
      some ⟨[name], before ++ [(name, .table .header [])]⟩ := by
  have missing : before.find? name = none :=
    List.lookup_eq_none_iff.2 fun entry there => by simpa using (fresh entry there).symm
  simp [Progress.carryOut, Progress.openAt, descend, openTable, missing,
    Drafts.insertNew?_of_fresh fresh]

theorem carryOut_assignment (fresh : ∀ entry ∈ before, entry.1 ≠ name) {key : String}
    {entries : Drafts} (newKey : ∀ entry ∈ entries, entry.1 ≠ key) (draft : Draft) :
    Progress.carryOut ⟨[name], before ++ [(name, .table .header entries)]⟩
        (.assignment [key] draft) =
      some ⟨[name], before ++ [(name, .table .header (entries ++ [(key, draft)]))]⟩ := by
  simp [Progress.carryOut, descend, assignPath, assign, Drafts.find?_last fresh,
    Drafts.replace_last fresh, Drafts.insertNew?_of_fresh newKey]

theorem carryOut_assignments (fresh : ∀ entry ∈ before, entry.1 ≠ name) (entries added : Drafts)
    (keys : ((entries ++ added).map Prod.fst).Nodup) :
    (added.map fun entry => Statement.assignment [entry.1] entry.2).foldlM Progress.carryOut
        ⟨[name], before ++ [(name, .table .header entries)]⟩ =
      some ⟨[name], before ++ [(name, .table .header (entries ++ added))]⟩ := by
  induction added generalizing entries with
  | nil => simp
  | cons entry rest ih =>
      have newKey : ∀ old ∈ entries, old.1 ≠ entry.1 := by
        rw [List.map_append, List.nodup_append] at keys
        exact fun old there => keys.2.2 old.1 (List.mem_map_of_mem there) entry.1 (by simp)
      have whole : entries ++ entry :: rest = entries ++ [entry] ++ rest := by simp
      rw [whole] at keys ⊢
      rw [List.map_cons, List.foldlM_cons, carryOut_assignment fresh newKey]
      exact ih (entries ++ [entry]) keys

theorem Section.keys_drafts (settings : Section) :
    (settings.drafts.map Prod.fst).Sublist (settings.map Prod.fst) := by
  induction settings with
  | nil => exact .slnil
  | cons setting rest ih =>
      obtain ⟨key, _ | value⟩ := setting
      · exact ih.cons key
      · exact ih.cons_cons key

theorem carryOut_sections (sections : Sections) (path : List String) (before : Drafts)
    (names : ((before.map Prod.fst) ++ sections.map Prod.fst).Nodup)
    (keys : ∀ entry ∈ sections, (entry.2.map Prod.fst).Nodup) :
    (sections.statements.foldlM Progress.carryOut ⟨path, before⟩).map Progress.entries =
      some (before ++ sections.drafts) := by
  induction sections generalizing path before with
  | nil => simp [Sections.statements, Sections.drafts]
  | cons entry rest ih =>
      obtain ⟨name, settings⟩ := entry
      obtain ⟨distinct, keys⟩ := List.forall_mem_cons.1 keys
      have fresh : ∀ old ∈ before, old.1 ≠ name := by
        rw [List.nodup_append] at names
        exact fun old there => names.2.2 old.1 (List.mem_map_of_mem there) name (by simp)
      have assigned := carryOut_assignments fresh [] settings.drafts
        (by simpa using distinct.sublist settings.keys_drafts)
      have statements : Sections.statements ((name, settings) :: rest) =
          .header [name] :: (settings.statements ++ Sections.statements rest) := rfl
      rw [statements, List.foldlM_cons, carryOut_header fresh, Option.bind_eq_bind, Option.bind_some,
        List.foldlM_append, Section.statements, assigned, Option.bind_eq_bind, Option.bind_some, ih]
      · simp [Sections.drafts]
      · simpa using names
      · exact keys

end CarriedOut

theorem Section.fields_drafts (settings : Section) : fields settings.drafts = settings.entries := by
  rw [fields_eq_map, Section.drafts, Section.entries, List.map_filterMap]
  congr 1
  funext setting
  obtain ⟨key, _ | _ | _⟩ := setting <;> rfl

theorem Sections.fields_drafts (sections : Sections) : fields sections.drafts = sections.entries := by
  simp [fields_eq_map, Sections.drafts, Sections.entries, Draft.node, ← Section.fields_drafts]

/-- Whatever is written is read back, be there a limit or not. -/
theorem plain_read?_of_write {limit : Option Nat} {sections : Sections} {text : String}
    (sound : sections.WellFormed) (written : (plain limit).write sections = .ok (some text)) :
    (plain limit).read? text = some sections.entries := by
  simp only [plain] at written
  cases found : sections.written limit with
  | error cause =>
      rw [found] at written
      cases written
  | ok lines =>
      rw [found] at written
      cases written
      obtain ⟨clean, unmarked, describes⟩ :=
        Sections.describes sound.wordNames sound.wordKeys found
      have carried := carryOut_sections sections [] [] (by simpa using sound.names) sound.keys
      have read : drafts? (String.ofList lines) = some sections.drafts := by
        rw [drafts?_of_describes (by simpa using clean) (by simpa using unmarked)
          (by simpa using describes)]
        exact carried
      simp [plain, read, Sections.fields_drafts]

theorem Scalar.exists_written_text {limit : Option Nat} {text : String}
    (short : ∀ bound ∈ limit, ∀ quote ∈ ['"', '\''],
      ¬ List.replicate bound quote <:+: text.toList) :
    ∃ written, (Scalar.text text).written limit = .ok written := by
  have countable : countableRuns limit text.toList = true := by
    cases limit with
    | none => rfl
    | some bound =>
        have shorter := short bound rfl
        simp only [List.forall_mem_cons, ← le_longestRun_zero_iff, Nat.not_le] at shorter
        simp [countableRuns, shorter]
  exact ⟨_, if_pos countable⟩

def Sections.texts (sections : Sections) : List String :=
  sections.flatMap fun entry => entry.2.filterMap fun setting =>
    match setting.2 with
    | some (.text text) => some text
    | _ => none

theorem Section.exists_written {limit : Option Nat} {settings : Section}
    (short : ∀ setting ∈ settings, ∀ text, setting.2 = some (.text text) →
      ∃ written, (Scalar.text text).written limit = .ok written) :
    ∃ lines, settings.written limit = .ok lines := by
  induction settings with
  | nil => exact ⟨[], rfl⟩
  | cons setting rest ih =>
      obtain ⟨first, short⟩ := List.forall_mem_cons.1 short
      obtain ⟨others, remaining⟩ := ih short
      obtain ⟨key, _ | text | value⟩ := setting
      · exact ⟨others, remaining⟩
      · obtain ⟨written, found⟩ := first text rfl
        exact ⟨_, by rw [Section.written, found, remaining]; rfl⟩
      · exact ⟨_, by rw [Section.written, Scalar.written, remaining]; rfl⟩

theorem plain_exists_write {limit : Option Nat} {sections : Sections}
    (short : ∀ text ∈ sections.texts, ∀ bound ∈ limit, ∀ quote ∈ ['"', '\''],
      ¬ List.replicate bound quote <:+: text.toList) :
    ∃ text, (plain limit).write sections = .ok (some text) := by
  have each : ∀ entry ∈ sections, ∃ lines, Section.written limit entry.2 = .ok lines := by
    intro entry there
    refine Section.exists_written fun setting member text present =>
      Scalar.exists_written_text (short text ?_)
    exact List.mem_flatMap.2 ⟨entry, there, List.mem_filterMap.2 ⟨setting, member, by rw [present]⟩⟩
  have whole : ∃ lines, sections.written limit = .ok lines := by
    clear short
    induction sections with
    | nil => exact ⟨[], rfl⟩
    | cons entry rest ih =>
        obtain ⟨⟨lines, found⟩, each⟩ := List.forall_mem_cons.1 each
        obtain ⟨others, remaining⟩ := ih each
        exact ⟨_, by rw [Sections.written, found, remaining]; rfl⟩
  obtain ⟨lines, found⟩ := whole
  exact ⟨String.ofList lines, by simp [plain, found, Except.map]⟩

theorem plain_inverts : (plain none).Inverts := by
  intro sections sound
  obtain ⟨text, written⟩ : ∃ text, (plain none).write sections = .ok (some text) :=
    plain_exists_write (by simp)
  exact ⟨text, written, plain_read?_of_write sound written⟩

end Boundary.Toml
