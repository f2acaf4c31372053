import Boundary.Text.Lowercase

/-!
The lowercase mapping over all characters. Main statements: the first character of a lowercase form is
its own lowercase form; and a text becomes a word of ASCII letters other than `i` and `k` exactly if it
is that word up to the case of ASCII letters.
-/

namespace Boundary.Text

theorem toNat_pos {char : Char} (nonzero : char ≠ '\x00') : 0 < char.toNat := by
  apply Nat.pos_of_ne_zero
  intro zero
  apply nonzero
  rw [← Char.ofNat_toNat char, zero]

section Table

variable {run other : CaseRun} {code : Nat}

theorem CaseRun.covers_iff : run.covers code = true ↔
    run.first ≤ code ∧ code ≤ run.last ∧ (code - run.first) % run.stride = 0 := by
  rw [covers, Bool.and_eq_true, Bool.and_eq_true, decide_eq_true_iff, decide_eq_true_iff,
    decide_eq_true_iff, and_assoc]

theorem lowerCode_of_not_covered (small : ∀ run ∈ caseRuns, ¬run.covers code = true) :
    lowerCode code = code := by
  rw [lowerCode, List.find?_eq_none.2 small]

theorem lowerCode_cases (code : Nat) : lowerCode code = code ∨
    ∃ run ∈ caseRuns, run.covers code = true ∧ lowerCode code = run.apply code := by
  cases found : caseRuns.find? fun run => run.covers code with
  | none => exact .inl (lowerCode_of_not_covered (List.find?_eq_none.1 found))
  | some run =>
      have covered : run.covers code = true := by
        simpa only using List.find?_some found
      refine .inr ⟨run, List.mem_of_find?_eq_some found, covered, ?_⟩
      rw [lowerCode, found]

theorem caseRuns_in_range : ∀ run ∈ caseRuns, 0 < run.first + run.shift ∧
    (run.last + run.shift < 0xd800 ∨
      0xdfff < run.first + run.shift ∧ run.last + run.shift < 0x110000) := by
  decide +kernel

theorem lowerCode_within (code : Nat) : lowerCode code = code ∨ ∃ run ∈ caseRuns,
    run.first ≤ code ∧ code ≤ run.last ∧ (lowerCode code : Int) = code + run.shift := by
  rcases lowerCode_cases code with same | ⟨run, among, covered, lowered⟩
  · exact .inl same
  · obtain ⟨low, high, _⟩ := CaseRun.covers_iff.1 covered
    have positive := (caseRuns_in_range run among).1
    refine .inr ⟨run, among, low, high, ?_⟩
    rw [lowered, CaseRun.apply]
    omega

theorem lowerCode_valid (valid : code.isValidChar) : (lowerCode code).isValidChar := by
  rcases lowerCode_within code with same | ⟨run, among, low, high, lowered⟩
  · rwa [same]
  · have range := caseRuns_in_range run among
    rw [Nat.isValidChar]
    omega

theorem lowerCode_pos (positive : 0 < code) : 0 < lowerCode code := by
  rcases lowerCode_within code with same | ⟨run, among, low, high, lowered⟩
  · rwa [same]
  · have range := caseRuns_in_range run among
    omega

def CaseRun.misses (run other : CaseRun) : Bool :=
  (run.apply run.last).blt other.first || other.last.blt (run.apply run.first) ||
    (run.stride == 2 || run.first == run.last) && other.stride == 2 &&
      (run.apply run.first + other.first) % 2 == 1

theorem caseRuns_miss : (caseRuns.all fun run => caseRuns.all run.misses) = true := by
  decide +kernel

theorem CaseRun.not_covers_of_misses (misses : run.misses other = true)
    (positive : 0 < run.first + run.shift) (covered : run.covers code = true) :
    ¬other.covers (run.apply code) = true := by
  rw [covers_iff] at covered ⊢
  rintro ⟨low, high, spaced⟩
  simp only [CaseRun.misses, apply, Bool.or_eq_true, Bool.and_eq_true, Nat.blt_eq, beq_iff_eq]
    at misses low high spaced
  rcases misses with (below | above) | ⟨⟨even | single, otherEven⟩, odd⟩
  · omega
  · omega
  · rw [even] at covered
    rw [otherEven] at spaced
    omega
  · rw [otherEven] at spaced
    omega

theorem lowerCode_lowerCode (code : Nat) : lowerCode (lowerCode code) = lowerCode code := by
  rcases lowerCode_cases code with same | ⟨run, among, covered, lowered⟩
  · rw [same, same]
  · rw [lowered]
    apply lowerCode_of_not_covered
    intro other otherAmong
    have misses := List.all_eq_true.1 (List.all_eq_true.1 caseRuns_miss run among) other otherAmong
    exact CaseRun.not_covers_of_misses misses (caseRuns_in_range run among).1 covered

theorem caseRuns_miss_dotted : ∀ run ∈ caseRuns,
    run.last + run.shift < 0x130 ∨ 0x130 < run.first + run.shift := by
  decide +kernel

theorem lowerCode_ne_dotted (different : code ≠ 0x130) : lowerCode code ≠ 0x130 := by
  rcases lowerCode_within code with same | ⟨run, among, low, high, lowered⟩
  · rwa [same]
  · have outside := caseRuns_miss_dotted run among
    omega

theorem caseRuns_leave_ascii : ∀ run ∈ caseRuns, run.last < 128 ∨
    128 ≤ run.first + run.shift ∨ run.first = 0x212a ∧ run.last = 0x212a := by
  decide +kernel

/-- The Kelvin sign is the only character outside ASCII that becomes a single ASCII letter. -/
theorem eq_kelvin_of_lowerCode_lt (foreign : 128 ≤ code) (ascii : lowerCode code < 128) :
    code = 0x212a := by
  rcases lowerCode_within code with same | ⟨run, among, low, high, lowered⟩
  · omega
  · have leaves := caseRuns_leave_ascii run among
    omega

end Table

section Character

variable {char : Char}

theorem toNat_lowered (char : Char) :
    (Char.ofNat (lowerCode char.toNat)).toNat = lowerCode char.toNat := by
  have start : char.toNat.isValidChar := char.valid
  rw [Char.ofNat, dif_pos (lowerCode_valid start)]
  rfl

theorem lowerChar_of_ne_dotted (different : char ≠ '\u0130') :
    lowerChar char = [Char.ofNat (lowerCode char.toNat)] :=
  if_neg different

theorem toNat_ne_dotted (different : char ≠ '\u0130') : char.toNat ≠ 0x130 := by
  intro dotted
  apply different
  rw [← Char.ofNat_toNat char, dotted]

theorem lowerChar_lowered (different : char ≠ '\u0130') :
    lowerChar (Char.ofNat (lowerCode char.toNat)) = [Char.ofNat (lowerCode char.toNat)] := by
  have plain : Char.ofNat (lowerCode char.toNat) ≠ '\u0130' := by
    intro dotted
    apply lowerCode_ne_dotted (toNat_ne_dotted different)
    rw [← toNat_lowered, dotted]
    rfl
  rw [lowerChar_of_ne_dotted plain, toNat_lowered, lowerCode_lowerCode]

theorem exists_lowerChar (char : Char) :
    ∃ first rest, lowerChar char = first :: rest ∧ lowerChar first = [first] := by
  by_cases dotted : char = '\u0130'
  · exact ⟨'i', ['\u0307'], if_pos dotted, by decide +kernel⟩
  · exact ⟨_, [], lowerChar_of_ne_dotted dotted, lowerChar_lowered dotted⟩

theorem lowerChar_ne_nil (char : Char) : lowerChar char ≠ [] := by
  obtain ⟨first, rest, form, _⟩ := exists_lowerChar char
  rw [form]
  exact List.cons_ne_nil first rest

theorem zero_notMem_lowerChar (nonzero : char ≠ '\x00') : '\x00' ∉ lowerChar char := by
  by_cases dotted : char = '\u0130'
  · rw [lowerChar, if_pos dotted]
    decide
  · rw [lowerChar_of_ne_dotted dotted, List.mem_singleton]
    intro zero
    have lowered := lowerCode_pos (toNat_pos nonzero)
    rw [← toNat_lowered, ← zero] at lowered
    exact absurd lowered (Nat.lt_irrefl 0)

theorem lowerChar_ascii (ascii : char.toNat < 128) : lowerChar char = [char.toLower] := by
  have all : ∀ code < 128, lowerChar (Char.ofNat code) = [(Char.ofNat code).toLower] := by
    decide +kernel
  simpa only [Char.ofNat_toNat] using all char.toNat ascii

theorem toLower_of_not_ascii (foreign : 128 ≤ char.toNat) : char.toLower = char := by
  apply dif_neg
  rintro ⟨_, high⟩
  have small : char.toNat ≤ 90 := UInt32.le_iff_toNat_le.1 high
  omega

end Character

/-- The ASCII characters that start no lowercase form of a character outside ASCII. -/
def Unmistakable (letter : Char) : Prop := letter.toNat < 128 ∧ letter ≠ 'i' ∧ letter ≠ 'k'

instance (letter : Char) : Decidable (Unmistakable letter) :=
  inferInstanceAs (Decidable (_ ∧ _ ∧ _))

section Word

variable {char : Char} {before rest : List Char}

theorem lowerFrom_cons_ascii (ascii : char.toNat < 128) :
    lowerFrom before (char :: rest) = char.toLower :: lowerFrom (char :: before) rest := by
  have noSigma : char ≠ '\u03a3' := by
    rintro rfl
    exact absurd ascii (by decide)
  rw [lowerFrom, if_neg fun final => noSigma final.1, lowerChar_ascii ascii]
  rfl

theorem exists_lowerChar_foreign (foreign : 128 ≤ char.toNat) :
    ∃ first others, lowerChar char = first :: others ∧ ¬Unmistakable first := by
  by_cases dotted : char = '\u0130'
  · exact ⟨'i', ['\u0307'], if_pos dotted, by decide⟩
  · refine ⟨_, [], lowerChar_of_ne_dotted dotted, ?_⟩
    rintro ⟨ascii, _, notK⟩
    rw [toNat_lowered] at ascii
    rw [eq_kelvin_of_lowerCode_lt foreign ascii] at notK
    exact notK (by decide +kernel)

theorem exists_lowerFrom_cons_foreign (foreign : 128 ≤ char.toNat) :
    ∃ first others, lowerFrom before (char :: rest) = first :: others ∧ ¬Unmistakable first := by
  rw [lowerFrom]
  split
  · exact ⟨'\u03c2', _, rfl, by decide⟩
  · obtain ⟨first, others, form, mistakable⟩ := exists_lowerChar_foreign foreign
    rw [form]
    exact ⟨first, _, rfl, mistakable⟩

theorem lowerFrom_eq_iff {text word : List Char}
    (plain : ∀ letter ∈ word, Unmistakable letter) :
    lowerFrom before text = word ↔ text.map Char.toLower = word := by
  induction text generalizing before word with
  | nil => rfl
  | cons char rest ih =>
      rw [List.map_cons]
      by_cases ascii : char.toNat < 128
      · rw [lowerFrom_cons_ascii ascii]
        cases word with
        | nil => simp only [reduceCtorEq]
        | cons letter word =>
            rw [List.cons.injEq, List.cons.injEq,
              ih fun letter among => plain letter (List.mem_cons_of_mem _ among)]
      · have foreign := Nat.le_of_not_lt ascii
        -- Neither side can hold: both put a character at the front that no such word contains.
        constructor
        · intro lowered
          obtain ⟨first, others, form, mistakable⟩ := exists_lowerFrom_cons_foreign foreign
          rw [form] at lowered
          exact absurd (plain first (lowered ▸ List.mem_cons_self)) mistakable
        · intro folded
          have among : char ∈ word := by
            rw [← folded, toLower_of_not_ascii foreign]
            exact List.mem_cons_self
          exact absurd (plain char among).1 ascii

end Word

/-- Whatever the lowercase mapping does elsewhere, it makes such a word of that word alone, in any
mixture of ASCII capitals and small letters. -/
theorem lowercase_eq_iff {text word : String}
    (plain : ∀ letter ∈ word.toList, Unmistakable letter) :
    lowercase text = word ↔ text.toLower = word := by
  have folded : text.toLower.toList = text.toList.map Char.toLower := String.toList_map
  rw [← String.toList_inj, ← String.toList_inj, lowercase, String.toList_ofList, folded]
  exact lowerFrom_eq_iff plain

end Boundary.Text
