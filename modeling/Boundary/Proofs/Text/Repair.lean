import Boundary.Proofs.Text.Utf8

/-!
Repairing text. Main statements: well-formed bytes are repaired to their own text, and a byte that
continues no character keeps what stands before it apart from what follows.
-/

namespace Boundary.Utf8

theorem repairFrom_of_decodeFrom? {state : Option Pending} {bytes : List UInt8} {text : List Char}
    (decoded : decodeFrom? state bytes = some text) : repairFrom state bytes = text := by
  induction bytes generalizing state text with
  | nil =>
      cases state with
      | none =>
          cases decoded
          rfl
      | some pending => cases decoded
  | cons byte rest ih =>
      cases state with
      | none =>
          rw [decodeFrom?] at decoded
          rw [repairFrom, step, start]
          cases leading : lead byte with
          | single char =>
              rw [leading] at decoded
              obtain ⟨later, remaining, rfl⟩ := Option.map_eq_some_iff.1 decoded
              simp [ih remaining]
          | opens pending =>
              rw [leading] at decoded
              simp [ih decoded]
          | malformed =>
              rw [leading] at decoded
              cases decoded
      | some pending =>
          rw [decodeFrom?] at decoded
          rw [repairFrom, step]
          cases continued : pending.next? byte with
          | none =>
              rw [continued] at decoded
              cases decoded
          | some outcome =>
              rw [continued] at decoded
              cases outcome with
              | inl char =>
                  obtain ⟨later, remaining, rfl⟩ := Option.map_eq_some_iff.1 decoded
                  simp [ih remaining]
              | inr further => simp [ih decoded]

theorem repair_of_decode? {bytes : List UInt8} {text : List Char}
    (decoded : decode? bytes = some text) : repair bytes = text :=
  repairFrom_of_decodeFrom? decoded

theorem repair_bytes (text : String) : repair (bytes text) = text.toList :=
  repair_of_decode? (decode?_bytes text)

theorem Pending.next?_inl {state : Pending} {byte : UInt8} {char : Char}
    (finished : state.next? byte = some (.inl char)) :
    (state.low ≤ byte ∧ byte ≤ state.high) ∧ state.missing = 1 ∧
      char = Char.ofNat (state.code * 64 + (byte.toNat - 0x80)) := by
  unfold Pending.next? at finished
  split at finished
  · rename_i inside
    simp only at finished
    split at finished
    · rename_i last
      simp only [Option.some.injEq, Sum.inl.injEq] at finished
      exact ⟨inside, last, finished.symm⟩
    · cases finished
  · cases finished

theorem Pending.next?_inr {state later : Pending} {byte : UInt8}
    (continued : state.next? byte = some (.inr later)) :
    (state.low ≤ byte ∧ byte ≤ state.high) ∧ state.missing ≠ 1 ∧
      later = ⟨state.missing - 1, 0x80, 0xbf, state.code * 64 + (byte.toNat - 0x80)⟩ := by
  unfold Pending.next? at continued
  split at continued
  · rename_i inside
    simp only at continued
    split at continued
    · cases continued
    · rename_i several
      cases continued
      exact ⟨inside, several, rfl⟩
  · cases continued

def Starts (byte : UInt8) : Prop := byte < 0x80 ∨ 0xbf < byte

structure Pending.Continues (state : Pending) : Prop where
  low : 0x80 ≤ state.low
  high : state.high ≤ 0xbf

theorem continues_of_lead {byte : UInt8} {state : Pending} (opened : lead byte = .opens state) :
    state.Continues := by
  unfold lead at opened
  repeat' split at opened
  all_goals cases opened
  all_goals exact ⟨by simp, by simp⟩

namespace Pending.Continues

variable {state : Pending}

theorem next? {byte : UInt8} {later : Pending}
    (continued : state.next? byte = some (.inr later)) : later.Continues := by
  obtain ⟨_, _, rfl⟩ := Pending.next?_inr continued
  exact ⟨by simp, by simp⟩

theorem next?_eq_none (continues : state.Continues) {byte : UInt8} (starts : Starts byte) :
    state.next? byte = none := by
  rw [Pending.next?, if_neg]
  rintro ⟨low, high⟩
  rcases starts with below | above
  · exact absurd (UInt8.lt_of_lt_of_le below (UInt8.le_trans continues.low low))
      (UInt8.lt_irrefl _)
  · exact absurd (UInt8.lt_of_lt_of_le above (UInt8.le_trans high continues.high))
      (UInt8.lt_irrefl _)

end Pending.Continues

theorem start_continues (byte : UInt8) : ∀ pending ∈ (start byte).2, pending.Continues := by
  intro pending opened
  rw [start] at opened
  cases leading : lead byte with
  | opens state =>
      rw [leading] at opened
      cases opened
      exact continues_of_lead leading
  | single char | malformed =>
      rw [leading] at opened
      cases opened

theorem step_continues (state : Option Pending) (byte : UInt8) :
    ∀ pending ∈ (step state byte).2, pending.Continues := by
  intro pending opened
  cases state with
  | none => exact start_continues byte pending opened
  | some former =>
      rw [step] at opened
      cases continued : former.next? byte with
      | none =>
          rw [continued] at opened
          exact start_continues byte pending opened
      | some outcome =>
          rw [continued] at opened
          cases outcome with
          | inl char => cases opened
          | inr later =>
              cases opened
              exact .next? continued

theorem repairFrom_cons (state : Option Pending) (byte : UInt8) (rest : List UInt8) :
    repairFrom state (byte :: rest) = (step state byte).1 ++ repairFrom (step state byte).2 rest := by
  rw [repairFrom]

theorem repairFrom_append {state : Option Pending} {byte : UInt8} (starts : Starts byte)
    (continues : ∀ pending ∈ state, pending.Continues) (before after : List UInt8) :
    repairFrom state (before ++ byte :: after) =
      repairFrom state before ++ repairFrom none (byte :: after) := by
  induction before generalizing state with
  | nil =>
      cases state with
      | none => rfl
      | some pending =>
          have closed := (continues pending rfl).next?_eq_none starts
          simp [repairFrom, step, closed]
  | cons first before ih =>
      rw [List.cons_append, repairFrom_cons, ih (step_continues state first),
        repairFrom_cons state, List.append_assoc]

theorem repair_append {byte : UInt8} (starts : Starts byte) (before after : List UInt8) :
    repair (before ++ byte :: after) = repair before ++ repair (byte :: after) :=
  repairFrom_append starts (by simp) before after

theorem repair_append_zero (before after : List UInt8) :
    repair (before ++ 0 :: after) = repair before ++ '\x00' :: repair after :=
  repair_append (Or.inl (by decide)) before after

end Boundary.Utf8
