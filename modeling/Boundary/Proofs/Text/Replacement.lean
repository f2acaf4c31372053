import Boundary.Proofs.Text.Repair
import Mathlib.Algebra.GroupWithZero.Nat

/-!
What repaired text consists of. Well-formed bytes are the encodings of characters one after the other;
damaged ones have fragments of such encodings in between. Main statements: just the encodings of texts
are decoded, and repairing puts one replacement character for each fragment, as long as it can be.
-/

namespace Boundary.Utf8

def trail : Nat → Nat → List UInt8
  | 0, _ => []
  | count + 1, point => UInt8.ofNat (point / 64 ^ count % 64 + 0x80) :: trail count point

section Point

variable {point : Nat}

theorem code_ofNat (valid : point < 0xd800 ∨ 0xdfff < point ∧ point < 0x110000) :
    (Char.ofNat point).val.toNat = point := by
  have scalar : point.isValidChar := valid
  rw [Char.ofNat, dif_pos scalar]
  rfl

theorem exists_char_of_two (low : 0x7f < point) (high : point ≤ 0x7ff) :
    ∃ char : Char, char.toNat = point ∧
      String.utf8EncodeChar char = UInt8.ofNat (point / 64 + 0xc0) :: trail 1 point := by
  have code : (Char.ofNat point).val.toNat = point := code_ofNat (by omega)
  have first : point / 64 % 0x20 = point / 64 := by omega
  refine ⟨Char.ofNat point, code, ?_⟩
  simp only [String.utf8EncodeChar, code, trail, first]
  rw [if_neg (by omega), if_pos high]
  simp

theorem exists_char_of_three (low : 0x7ff < point) (high : point ≤ 0xffff)
    (valid : point < 0xd800 ∨ 0xdfff < point) :
    ∃ char : Char, char.toNat = point ∧
      String.utf8EncodeChar char = UInt8.ofNat (point / 4096 + 0xe0) :: trail 2 point := by
  have code : (Char.ofNat point).val.toNat = point := code_ofNat (by omega)
  have first : point / 4096 % 0x10 = point / 4096 := by omega
  refine ⟨Char.ofNat point, code, ?_⟩
  simp only [String.utf8EncodeChar, code, trail, first]
  rw [if_neg (by omega), if_neg (by omega), if_pos high]
  simp

theorem exists_char_of_four (low : 0xffff < point) (high : point < 0x110000) :
    ∃ char : Char, char.toNat = point ∧
      String.utf8EncodeChar char = UInt8.ofNat (point / 262144 + 0xf0) :: trail 3 point := by
  have code : (Char.ofNat point).val.toNat = point := code_ofNat (by omega)
  have first : point / 262144 % 0x08 = point / 262144 := by omega
  refine ⟨Char.ofNat point, code, ?_⟩
  simp only [String.utf8EncodeChar, code, trail, first]
  rw [if_neg (by omega), if_neg (by omega), if_neg (by omega)]
  simp

end Point

theorem lead_single {byte : UInt8} {char : Char} (single : lead byte = .single char) :
    String.utf8EncodeChar char = [byte] := by
  unfold lead at single
  split at single
  · rename_i below
    cases single
    have small : byte.toNat < 0x80 := UInt8.lt_iff_toNat_lt.1 below
    have code : (Char.ofNat byte.toNat).val.toNat = byte.toNat := code_ofNat (by omega)
    simp only [String.utf8EncodeChar, code]
    rw [if_pos (Nat.le_of_lt_succ small), UInt8.ofNat_toNat]
  · repeat' split at single
    all_goals cases single

structure Pending.Covers (state : Pending) (point : Nat) : Prop where
  code : point / 64 ^ state.missing = state.code
  low : state.low.toNat ≤ point / 64 ^ (state.missing - 1) % 64 + 0x80
  high : point / 64 ^ (state.missing - 1) % 64 + 0x80 ≤ state.high.toNat

theorem lead_opens {byte : UInt8} {state : Pending} (opened : lead byte = .opens state) :
    (0xc2 ≤ byte.toNat ∧ byte.toNat < 0xe0 ∧ state = ⟨1, 0x80, 0xbf, byte.toNat - 0xc0⟩) ∨
      (0xe0 ≤ byte.toNat ∧ byte.toNat < 0xf0 ∧
        state = ⟨2, if byte.toNat = 0xe0 then 0xa0 else 0x80,
          if byte.toNat = 0xed then 0x9f else 0xbf, byte.toNat - 0xe0⟩) ∨
      (0xf0 ≤ byte.toNat ∧ byte.toNat < 0xf5 ∧
        state = ⟨3, if byte.toNat = 0xf0 then 0x90 else 0x80,
          if byte.toNat = 0xf4 then 0x8f else 0xbf, byte.toNat - 0xf0⟩) := by
  have again : lead (UInt8.ofNat byte.toNat) = .opens state := by rw [UInt8.ofNat_toNat, opened]
  by_cases two : byte.toNat < 0xe0
  · refine Or.inl ?_
    simp only [lead, UInt8.lt_iff_toNat_lt, UInt8.reduceToNat, if_pos two] at opened
    split at opened
    · cases opened
    · split at opened
      · cases opened
      · rename_i long
        cases opened
        exact ⟨Nat.le_of_not_lt long, two, rfl⟩
  · by_cases three : byte.toNat < 0xf0
    · rw [lead_of_three (Nat.le_of_not_lt two) three] at again
      cases again
      exact Or.inr (Or.inl ⟨Nat.le_of_not_lt two, three, rfl⟩)
    · by_cases four : byte.toNat < 0xf5
      · rw [lead_of_four (Nat.le_of_not_lt three) four] at again
        cases again
        exact Or.inr (Or.inr ⟨Nat.le_of_not_lt three, four, rfl⟩)
      · simp only [lead, UInt8.lt_iff_toNat_lt, ← UInt8.toNat_inj, UInt8.reduceToNat] at opened
        repeat' rw [if_neg (by omega)] at opened
        cases opened

theorem lead_covers {byte : UInt8} {state : Pending} (opened : lead byte = .opens state) {point : Nat}
    (covers : state.Covers point) :
    ∃ char : Char, char.toNat = point ∧
      String.utf8EncodeChar char = byte :: trail state.missing point := by
  obtain ⟨code, low, high⟩ := covers
  rcases lead_opens opened with ⟨least, most, rfl⟩ | ⟨least, most, rfl⟩ | ⟨least, most, rfl⟩
  · simp only [Nat.pow_one] at code
    have first : UInt8.ofNat (point / 64 + 0xc0) = byte := by
      rw [show point / 64 + 0xc0 = byte.toNat by omega, UInt8.ofNat_toNat]
    rw [← first]
    exact exists_char_of_two (by omega) (by omega)
  · -- The range of the second byte keeps overlong forms and surrogates out.
    simp only at code low high
    have first : UInt8.ofNat (point / 4096 + 0xe0) = byte := by
      rw [show point / 4096 + 0xe0 = byte.toNat by omega, UInt8.ofNat_toNat]
    have long : 0x7ff < point := by
      split at low <;> simp at low <;> omega
    rw [← first]
    refine exists_char_of_three long (by omega) ?_
    split at high <;> simp at high <;> omega
  · simp only at code low high
    have first : UInt8.ofNat (point / 262144 + 0xf0) = byte := by
      rw [show point / 262144 + 0xf0 = byte.toNat by omega, UInt8.ofNat_toNat]
    rw [← first]
    refine exists_char_of_four ?_ ?_
    · split at low <;> simp at low <;> omega
    · split at high <;> simp at high <;> omega

inductive Opened : List UInt8 → Pending → Prop
  | lead {byte : UInt8} {state : Pending} (opens : lead byte = .opens state) : Opened [byte] state
  | next {part : List UInt8} {state later : Pending} {byte : UInt8} (opened : Opened part state)
      (continued : state.next? byte = some (.inr later)) : Opened (part ++ [byte]) later

theorem covers_of_next {state : Pending} {byte : UInt8} (continues : state.Continues)
    (positive : 0 < state.missing) (inside : state.low ≤ byte ∧ byte ≤ state.high) {point : Nat}
    (code : point / 64 ^ (state.missing - 1) = state.code * 64 + (byte.toNat - 0x80)) :
    state.Covers point ∧ trail state.missing point = byte :: trail (state.missing - 1) point := by
  have low := UInt8.le_iff_toNat_le.1 inside.1
  have high := UInt8.le_iff_toNat_le.1 inside.2
  have least := UInt8.le_iff_toNat_le.1 continues.low
  have most := UInt8.le_iff_toNat_le.1 continues.high
  simp only [UInt8.reduceToNat] at least most
  have digit : point / 64 ^ (state.missing - 1) % 64 + 0x80 = byte.toNat := by omega
  obtain ⟨more, several⟩ := Nat.exists_eq_succ_of_ne_zero (Nat.ne_of_gt positive)
  rw [several, Nat.succ_sub_one] at code digit
  have whole : point / 64 ^ (more + 1) = state.code := by
    rw [Nat.pow_succ, ← Nat.div_div_eq_div_mul, code]
    omega
  refine ⟨⟨?_, ?_, ?_⟩, ?_⟩
  · rw [several, whole]
  · rw [several, Nat.succ_sub_one, digit]
    exact low
  · rw [several, Nat.succ_sub_one, digit]
    exact high
  · rw [several, Nat.succ_sub_one, trail, digit, UInt8.ofNat_toNat]

namespace Opened

variable {part rest : List UInt8} {state : Pending}

theorem continues (opened : Opened part state) : state.Continues := by
  cases opened with
  | lead opens => exact continues_of_lead opens
  | next _ continued => exact .next? continued

theorem positive (opened : Opened part state) : 0 < state.missing := by
  induction opened with
  | lead opens =>
      rcases lead_opens opens with ⟨_, _, rfl⟩ | ⟨_, _, rfl⟩ | ⟨_, _, rfl⟩
      all_goals exact Nat.succ_pos _
  | next _ continued ih =>
      obtain ⟨_, several, rfl⟩ := Pending.next?_inr continued
      exact Nat.sub_pos_of_lt (Nat.lt_of_le_of_ne ih (Ne.symm several))

theorem low_le_high (opened : Opened part state) : state.low.toNat ≤ state.high.toNat := by
  cases opened with
  | lead opens =>
      rcases lead_opens opens with ⟨_, _, rfl⟩ | ⟨_, _, rfl⟩ | ⟨_, _, rfl⟩
      · exact Nat.le_of_ble_eq_true rfl
      · simp only
        split <;> split <;> grind
      · simp only
        split <;> split <;> grind
  | next _ continued =>
      obtain ⟨_, _, rfl⟩ := Pending.next?_inr continued
      exact Nat.le_of_ble_eq_true rfl

theorem encodes (opened : Opened part state) {point : Nat} (covers : state.Covers point) :
    ∃ char : Char, char.toNat = point ∧
      String.utf8EncodeChar char = part ++ trail state.missing point := by
  induction opened with
  | lead opens => exact lead_covers opens covers
  | @next part state later byte opened continued ih =>
      obtain ⟨inside, several, rfl⟩ := Pending.next?_inr continued
      obtain ⟨earlier, digits⟩ :=
        covers_of_next opened.continues opened.positive inside covers.code
      obtain ⟨char, code, encoded⟩ := ih earlier
      refine ⟨char, code, ?_⟩
      rw [encoded, digits, List.append_assoc, List.singleton_append]

theorem exists_covers (opened : Opened part state) : ∃ point, state.Covers point := by
  have continues := opened.continues
  have low := UInt8.le_iff_toNat_le.1 continues.low
  have high := UInt8.le_iff_toNat_le.1 continues.high
  have ordered := opened.low_le_high
  simp only [UInt8.reduceToNat] at low high
  obtain ⟨more, several⟩ := Nat.exists_eq_succ_of_ne_zero (Nat.ne_of_gt opened.positive)
  have power : 0 < 64 ^ more := Nat.pow_pos (by decide)
  -- The least byte that may follow, and no bits after it.
  let point := (state.code * 64 + (state.low.toNat - 0x80)) * 64 ^ more
  have digits : point / 64 ^ more = state.code * 64 + (state.low.toNat - 0x80) :=
    Nat.mul_div_cancel _ power
  refine ⟨point, ?_, ?_, ?_⟩
  · rw [several, Nat.pow_succ, ← Nat.div_div_eq_div_mul, digits]
    omega
  · rw [several, Nat.succ_sub_one, digits]
    omega
  · rw [several, Nat.succ_sub_one, digits]
    omega

theorem finishes (opened : Opened part state) {byte : UInt8} {char : Char}
    (finished : state.next? byte = some (.inl char)) :
    String.utf8EncodeChar char = part ++ [byte] := by
  obtain ⟨inside, last, same⟩ := Pending.next?_inl finished
  obtain ⟨point, code⟩ : ∃ point, point = state.code * 64 + (byte.toNat - 0x80) := ⟨_, rfl⟩
  have digits : point / 64 ^ (state.missing - 1) = state.code * 64 + (byte.toNat - 0x80) := by
    rw [last, Nat.sub_self, Nat.pow_zero, Nat.div_one, code]
  obtain ⟨covers, trailing⟩ := covers_of_next opened.continues opened.positive inside digits
  obtain ⟨other, number, encoded⟩ := opened.encodes covers
  rw [same, ← code, ← number, Char.ofNat_toNat, encoded, trailing, last]
  rfl

theorem ne_nil (opened : Opened part state) : part ≠ [] := by
  cases opened with
  | lead _ => exact List.cons_ne_nil _ _
  | next _ _ => simp

theorem decode?_append (opened : Opened part state) (rest : List UInt8) :
    decode? (part ++ rest) = decodeFrom? (some state) rest := by
  induction opened generalizing rest with
  | lead opens => exact decodeFrom?_opens opens rest
  | next _ continued ih =>
      rw [List.append_assoc, List.singleton_append, ih, decodeFrom?, continued]

end Opened

theorem decodeFrom?_sound (bytes : List UInt8) :
    (∀ text, decodeFrom? none bytes = some text → bytes = encode text) ∧
      ∀ part state text, Opened part state → decodeFrom? (some state) bytes = some text →
        part ++ bytes = encode text := by
  induction bytes with
  | nil =>
      refine ⟨?_, fun _ _ _ _ decoded => nomatch decoded⟩
      rintro text ⟨⟩
      rfl
  | cons byte rest ih =>
      obtain ⟨whole, begun⟩ := ih
      constructor
      · intro text decoded
        rw [decodeFrom?] at decoded
        cases leading : lead byte with
        | single char =>
            rw [leading] at decoded
            obtain ⟨later, remaining, rfl⟩ := Option.map_eq_some_iff.1 decoded
            rw [encode, List.flatMap_cons, lead_single leading, whole later remaining]
            rfl
        | opens state =>
            rw [leading] at decoded
            exact begun [byte] state text (.lead leading) decoded
        | malformed =>
            rw [leading] at decoded
            cases decoded
      · intro part state text opened decoded
        rw [decodeFrom?] at decoded
        cases continued : state.next? byte with
        | none =>
            rw [continued] at decoded
            cases decoded
        | some outcome =>
            rw [continued] at decoded
            cases outcome with
            | inl char =>
                obtain ⟨later, remaining, rfl⟩ := Option.map_eq_some_iff.1 decoded
                rw [encode, List.flatMap_cons, opened.finishes continued, List.append_assoc,
                  whole later remaining]
                rfl
            | inr later =>
                have joined := begun (part ++ [byte]) later text (.next opened continued) decoded
                rwa [List.append_assoc] at joined

/-- Just the encodings of texts are decoded. -/
theorem decode?_eq_some_iff {bytes : List UInt8} {text : List Char} :
    decode? bytes = some text ↔ bytes = encode text := by
  refine ⟨(decodeFrom?_sound bytes).1 text, ?_⟩
  rintro rfl
  exact decode?_encode text

theorem decode?_encodeChar (char : Char) :
    decode? (String.utf8EncodeChar char) = some [char] :=
  decode?_eq_some_iff.2 (by simp [encode])

theorem eq_nil_of_decoded_one {char other : Char} {rest : List UInt8}
    (decoded : (decodeFrom? none rest).map (other :: ·) = some [char]) : rest = [] := by
  obtain ⟨later, remaining, joined⟩ := Option.map_eq_some_iff.1 decoded
  rw [List.cons.injEq] at joined
  rw [decode?_eq_some_iff.1 remaining, joined.2]
  rfl

theorem encodeChar_append_inj {char other : Char} {rest : List UInt8}
    (same : String.utf8EncodeChar char = String.utf8EncodeChar other ++ rest) : rest = [] := by
  have decoded := decode?_encodeChar char
  rw [same, decode?, decodeFrom?_encodeChar] at decoded
  exact eq_nil_of_decoded_one decoded

/-- Bytes that begin the encoding of a character and do not end it. -/
def Fragment (part : List UInt8) : Prop :=
  part ≠ [] ∧ ∃ char rest, rest ≠ [] ∧ String.utf8EncodeChar char = part ++ rest

theorem Opened.exists_later {part more rest : List UInt8} {state : Pending} {char : Char}
    (opened : Opened part state) (unfinished : rest ≠ [])
    (encoded : String.utf8EncodeChar char = part ++ (more ++ rest)) :
    ∃ later, Opened (part ++ more) later := by
  induction more generalizing part state with
  | nil => exact ⟨state, by simpa using opened⟩
  | cons byte more ih =>
      have decoded := decode?_encodeChar char
      rw [encoded, opened.decode?_append, List.cons_append, decodeFrom?] at decoded
      cases continued : state.next? byte with
      | none =>
          rw [continued] at decoded
          cases decoded
      | some outcome =>
          rw [continued] at decoded
          cases outcome with
          | inl other =>
              exact absurd (List.append_eq_nil_iff.1 (eq_nil_of_decoded_one decoded)).2 unfinished
          | inr later =>
              have joined : part ++ byte :: more = part ++ [byte] ++ more := by simp
              rw [joined]
              exact ih (.next opened continued) (by simpa using encoded)

theorem fragment_iff {part : List UInt8} : Fragment part ↔ ∃ state, Opened part state := by
  constructor
  · rintro ⟨present, char, rest, unfinished, encoded⟩
    obtain ⟨byte, more, rfl⟩ := List.exists_cons_of_ne_nil present
    have decoded := decode?_encodeChar char
    rw [encoded, List.cons_append, decode?, decodeFrom?] at decoded
    cases leading : lead byte with
    | single other =>
        rw [leading] at decoded
        exact absurd (List.append_eq_nil_iff.1 (eq_nil_of_decoded_one decoded)).2 unfinished
    | opens state => exact (Opened.lead leading).exists_later unfinished encoded
    | malformed =>
        rw [leading] at decoded
        cases decoded
  · rintro ⟨state, opened⟩
    obtain ⟨point, covers⟩ := opened.exists_covers
    obtain ⟨char, _, encoded⟩ := opened.encodes covers
    obtain ⟨more, several⟩ := Nat.exists_eq_succ_of_ne_zero (Nat.ne_of_gt opened.positive)
    refine ⟨opened.ne_nil, char, _, ?_, encoded⟩
    rw [several]
    exact List.cons_ne_nil _ _

/-- What stands at the front of bytes that begin with no character: as long a fragment of one as there
is, or else a single byte. -/
structure Damage (part rest : List UInt8) : Prop where
  noChar : ∀ char, ¬ String.utf8EncodeChar char <+: part ++ rest
  shape : Fragment part ∨ part.length = 1
  longest : ∀ longer, longer <+: part ++ rest → Fragment longer → longer.length ≤ part.length

/-- Text that has a replacement character for each damage. -/
inductive Replaces : List UInt8 → List Char → Prop
  | nil : Replaces [] []
  | char (char : Char) {rest : List UInt8} {text : List Char} (later : Replaces rest text) :
      Replaces (String.utf8EncodeChar char ++ rest) (char :: text)
  | damage {part rest : List UInt8} {text : List Char} (damage : Damage part rest)
      (later : Replaces rest text) : Replaces (part ++ rest) ('\ufffd' :: text)

theorem Opened.stuck {part before after rest : List UInt8} {state : Pending} {char : Char}
    (opened : Opened part state) (refused : ∀ byte ∈ rest.head?, state.next? byte = none)
    (stands : before <+: rest)
    (encoded : String.utf8EncodeChar char = part ++ (before ++ after)) : before = [] := by
  cases before with
  | nil => rfl
  | cons byte before =>
      obtain ⟨others, rfl⟩ := stands
      have decoded := decode?_encodeChar char
      rw [encoded, opened.decode?_append, List.cons_append, decodeFrom?, refused byte rfl] at decoded
      cases decoded

theorem Opened.damage {part rest : List UInt8} {state : Pending} (opened : Opened part state)
    (refused : ∀ byte ∈ rest.head?, state.next? byte = none) : Damage part rest where
  noChar := by
    rintro char ⟨others, joined⟩
    obtain ⟨_, last, unread, unfinished, encoded⟩ := fragment_iff.2 ⟨state, opened⟩
    rcases List.append_eq_append_iff.1 joined with ⟨inner, split, _⟩ | ⟨inner, split, remaining⟩
    · rw [split, List.append_assoc] at encoded
      exact unfinished (List.append_eq_nil_iff.1 (encodeChar_append_inj encoded)).2
    · have empty := opened.stuck refused ⟨others, remaining.symm⟩ (by rw [split, List.append_nil])
      rw [empty, List.append_nil] at split
      rw [← split] at encoded
      exact unfinished (encodeChar_append_inj encoded)
  shape := Or.inl (fragment_iff.2 ⟨state, opened⟩)
  longest := by
    rintro longer stands ⟨_, char, after, _, encoded⟩
    refine Nat.le_of_not_lt fun more => ?_
    obtain ⟨inner, rfl⟩ : part <+: longer :=
      List.prefix_of_prefix_length_le (List.prefix_append part rest) stands (Nat.le_of_lt more)
    rw [List.append_assoc] at encoded
    have empty := opened.stuck refused ((List.prefix_append_right_inj part).1 stands) encoded
    simp [empty] at more

theorem damage_of_malformed {byte : UInt8} (malformed : lead byte = .malformed)
    (rest : List UInt8) : Damage [byte] rest := by
  have refused (char : Char) (more : List UInt8) :
      String.utf8EncodeChar char ≠ byte :: more := by
    intro encoded
    have decoded := decode?_encodeChar char
    rw [encoded, decode?, decodeFrom?, malformed] at decoded
    cases decoded
  refine ⟨?_, Or.inr rfl, ?_⟩
  · rintro char ⟨others, joined⟩
    rcases List.append_eq_cons_iff.1 joined with ⟨empty, _⟩ | ⟨more, encoded, _⟩
    · exact String.utf8EncodeChar_ne_nil empty
    · exact refused char more encoded
  · rintro longer ⟨others, joined⟩ ⟨present, char, after, _, encoded⟩
    rcases List.append_eq_cons_iff.1 joined with ⟨empty, _⟩ | ⟨more, split, _⟩
    · exact absurd empty present
    · rw [split, List.cons_append] at encoded
      exact absurd encoded (refused char _)

theorem replaces_repairFrom {part rest : List UInt8} {state : Pending} (opened : Opened part state)
    (later : ∀ shorter : List UInt8, shorter.length < (part ++ rest).length →
      Replaces shorter (repair shorter)) : Replaces (part ++ rest) (repairFrom (some state) rest) := by
  have present := List.length_pos_iff.2 opened.ne_nil
  induction rest generalizing part state with
  | nil => exact .damage (opened.damage (by simp)) .nil
  | cons byte rest ih =>
      cases continued : state.next? byte with
      | none =>
          have refused : ∀ other ∈ (byte :: rest).head?, state.next? other = none := by
            rintro other ⟨rfl⟩
            exact continued
          have repaired : repairFrom (some state) (byte :: rest) =
              '\ufffd' :: repair (byte :: rest) := by
            simp [repair, repairFrom, step, continued, replacement]
          rw [repaired]
          exact .damage (opened.damage refused) (later _ (by simp; omega))
      | some outcome =>
          cases outcome with
          | inl char =>
              have repaired : repairFrom (some state) (byte :: rest) = char :: repair rest := by
                simp [repair, repairFrom, step, continued]
              have joined : part ++ byte :: rest = String.utf8EncodeChar char ++ rest := by
                rw [opened.finishes continued]
                simp
              rw [repaired, joined]
              exact .char char (later rest (by simp; omega))
          | inr further =>
              have repaired : repairFrom (some state) (byte :: rest) =
                  repairFrom (some further) rest := by
                simp [repairFrom, step, continued]
              have joined : part ++ byte :: rest = part ++ [byte] ++ rest := by simp
              rw [repaired, joined]
              exact ih (.next opened continued) (by simpa using later) (by simp)

theorem replaces_repair (bytes : List UInt8) : Replaces bytes (repair bytes) := by
  -- A byte that ends no character is read again after the damage, so the length counts.
  induction size : bytes.length using Nat.strongRecOn generalizing bytes with
  | _ size ih =>
      cases bytes with
      | nil => exact .nil
      | cons byte rest =>
          have later (shorter : List UInt8) (less : shorter.length < (byte :: rest).length) :
              Replaces shorter (repair shorter) := ih _ (size ▸ less) shorter rfl
          cases leading : lead byte with
          | single char =>
              have repaired : repair (byte :: rest) = char :: repair rest := by
                simp [repair, repairFrom, step, start, leading]
              have joined : byte :: rest = String.utf8EncodeChar char ++ rest := by
                rw [lead_single leading, List.singleton_append]
              rw [repaired, joined]
              exact .char char (later rest (by simp))
          | opens state =>
              have repaired : repair (byte :: rest) = repairFrom (some state) rest := by
                simp [repair, repairFrom, step, start, leading]
              rw [repaired]
              exact replaces_repairFrom (.lead leading) later
          | malformed =>
              have repaired : repair (byte :: rest) = '\ufffd' :: repair rest := by
                simp [repair, repairFrom, step, start, leading, replacement]
              rw [repaired]
              exact .damage (damage_of_malformed leading rest) (later rest (by simp))

theorem encodeChar_append_cancel {char other : Char} {rest more : List UInt8}
    (joined : String.utf8EncodeChar char ++ rest = String.utf8EncodeChar other ++ more) :
    char = other ∧ rest = more := by
  have same : String.utf8EncodeChar char = String.utf8EncodeChar other := by
    rcases List.append_eq_append_iff.1 joined with ⟨inner, split, _⟩ | ⟨inner, split, _⟩
    · rw [split, encodeChar_append_inj split, List.append_nil]
    · rw [split, encodeChar_append_inj split, List.append_nil]
  have decoded := decode?_encodeChar char
  rw [same, decode?_encodeChar] at decoded
  cases decoded
  exact ⟨rfl, List.append_cancel_left joined⟩

namespace Damage

variable {part rest other more : List UInt8}

theorem length_pos (damage : Damage part rest) : 0 < part.length := by
  rcases damage.shape with ⟨present, _⟩ | single
  · exact List.length_pos_iff.2 present
  · omega

theorem length_le (damage : Damage part rest) (longer : Damage other more)
    (joined : part ++ rest = other ++ more) : part.length ≤ other.length := by
  rcases damage.shape with fragment | single
  · exact longer.longest part ⟨rest, joined⟩ fragment
  · rw [single]
    exact longer.length_pos

end Damage

/-- There is only one way to split bytes into characters and damage. -/
theorem Replaces.unique {bytes : List UInt8} {text other : List Char} (one : Replaces bytes text)
    (two : Replaces bytes other) : text = other := by
  induction one generalizing other with
  | nil =>
      generalize joined : [] = bytes at two
      cases two with
      | nil => rfl
      | char char _ => simp at joined
      | damage damage _ =>
          have present := damage.length_pos
          simp_all
  | @char char rest text _ ih =>
      generalize joined : String.utf8EncodeChar char ++ rest = bytes at two
      cases two with
      | nil => simp at joined
      | char next later =>
          obtain ⟨rfl, rfl⟩ := encodeChar_append_cancel joined
          rw [ih later]
      | damage damage _ => exact absurd ⟨rest, joined⟩ (damage.noChar char)
  | @damage part rest text damage _ ih =>
      generalize joined : part ++ rest = bytes at two
      cases two with
      | nil =>
          have present := damage.length_pos
          simp_all
      | @char char more _ _ => exact absurd ⟨more, joined.symm⟩ (damage.noChar char)
      | damage again later =>
          have length := Nat.le_antisymm (damage.length_le again joined)
            (again.length_le damage joined.symm)
          obtain ⟨rfl, rfl⟩ := List.append_inj joined length
          rw [ih later]

/-- Repaired text has one replacement character for each damage, and nothing else that the bytes do
not encode. -/
theorem replaces_iff {bytes : List UInt8} {text : List Char} :
    Replaces bytes text ↔ text = repair bytes := by
  constructor
  · exact fun replaces => replaces.unique (replaces_repair bytes)
  · rintro rfl
    exact replaces_repair bytes

theorem Replaces.encode_append {rest : List UInt8} {text : List Char} (later : Replaces rest text)
    (before : List Char) : Replaces (encode before ++ rest) (before ++ text) := by
  induction before with
  | nil => exact later
  | cons char before ih =>
      have joined : encode (char :: before) ++ rest =
          String.utf8EncodeChar char ++ (encode before ++ rest) := by simp [encode]
      rw [joined]
      exact .char char ih

theorem starts_of_lead {byte : UInt8} (read : lead byte ≠ .malformed) : Starts byte := by
  by_cases single : byte < 0x80
  · exact Or.inl single
  · by_cases continues : byte < 0xc2
    · exact absurd (by rw [lead, if_neg single, if_pos continues]) read
    · rw [UInt8.lt_iff_toNat_lt] at continues
      refine Or.inr (UInt8.lt_iff_toNat_lt.2 ?_)
      simp only [UInt8.reduceToNat] at continues ⊢
      omega

theorem repair_append_encode (before : List UInt8) (text : List Char) :
    repair (before ++ encode text) = repair before ++ text := by
  cases whole : encode text with
  | nil =>
      have empty : some text = some [] := (decode?_encode text).symm.trans (by rw [whole]; rfl)
      simp [Option.some.inj empty]
  | cons byte rest =>
      have decoded := decode?_encode text
      have read : lead byte ≠ .malformed := by
        intro malformed
        rw [whole, decode?, decodeFrom?, malformed] at decoded
        cases decoded
      rw [repair_append (starts_of_lead read), ← whole, repair_of_decode? decoded]

theorem repair_between (before after : String) (damaged : List UInt8) :
    repair (bytes before ++ damaged ++ bytes after) =
      before.toList ++ repair damaged ++ after.toList := by
  have replaces := (replaces_repair damaged).encode_append before.toList
  rw [bytes, bytes, repair_append_encode, ← replaces_iff.1 replaces]

def WellFormed (bytes : List UInt8) : Prop := ∃ text : String, Utf8.bytes text = bytes

theorem bytes_ofList (text : List Char) : bytes (String.ofList text) = encode text := by
  rw [bytes, String.toList_ofList]

theorem wellFormed_iff {bytes : List UInt8} : WellFormed bytes ↔ (decode? bytes).isSome = true := by
  constructor
  · rintro ⟨text, rfl⟩
    rw [decode?_bytes]
    rfl
  · intro decodes
    obtain ⟨text, decoded⟩ := Option.isSome_iff_exists.1 decodes
    exact ⟨String.ofList text, by rw [bytes_ofList, decode?_eq_some_iff.1 decoded]⟩

end Boundary.Utf8
