import Boundary.Proofs.Decoding.Outcome
import Boundary.Proofs.Text.Replacement

/-!
What native text is decoded to. Main statement: well-formed bytes come across as they are and without a
warning, and of other bytes just the damage is replaced.
-/

namespace Boundary

structure NativeRecord.Shows (record : NativeRecord) (memory : Memory) (bytes : List UInt8) :
    Prop where
  raw : record.raw = Tag.string.ordinal
  length : record.length.toInt = bytes.length
  place : record.payload.toAddress ≠ 0 ∨ bytes = []
  read : memory.read? record.payload.toAddress bytes.length = some bytes

section Shown

variable {record : NativeRecord} {state : State} {bytes : List UInt8}

theorem NativeRecord.Shows.decodes (shows : record.Shows state.memory bytes) :
    record.Decodes state.registry := by
  have sound : 0 ≤ record.length := by
    rw [Int32.le_iff_toInt_le, shows.length]
    exact Int.natCast_nonneg _
  refine Or.inr (Or.inl ⟨shows.raw, sound, ?_⟩)
  refine shows.place.imp_right fun empty => ?_
  rw [← Int32.toInt_inj, shows.length, empty]
  rfl

theorem run_unpack_of_shows (shows : record.Shows state.memory bytes) :
    (unpack record).run state = (.ok (some (.string (String.ofList (Utf8.repair bytes)))),
      { state with
        memory := state.memory.free record.payload.toAddress
        events := state.events ++ .unpacking .string record.length ::
          repairWarnings record.length bytes }) := by
  apply run_unpack_of_text shows.raw shows.decodes
  rw [shows.length, Int.toNat_natCast]
  exact shows.read

end Shown

theorem repaired_of_wellFormed {bytes : List UInt8} (wellFormed : Utf8.WellFormed bytes)
    (length : Int32) :
    Utf8.bytes (String.ofList (Utf8.repair bytes)) = bytes ∧ repairWarnings length bytes = [] := by
  obtain ⟨text, rfl⟩ := wellFormed
  rw [Utf8.repair_bytes, String.ofList_toList, repairWarnings, Utf8.decode?_bytes]
  exact ⟨rfl, rfl⟩

theorem repaired_of_damaged {bytes : List UInt8} (damaged : ¬ Utf8.WellFormed bytes)
    (length : Int32) :
    Utf8.bytes (String.ofList (Utf8.repair bytes)) ≠ bytes ∧
      repairWarnings length bytes = [.repaired length] := by
  refine ⟨fun same => damaged ⟨_, same⟩, ?_⟩
  rw [Utf8.wellFormed_iff] at damaged
  rw [repairWarnings, if_neg damaged]

/-- Native text of any bytes is decoded, and its buffer is released. Well-formed bytes come across
unchanged and without a warning; others are warned of once, and each damage in them becomes a single
replacement character, for there is no other way to read them. Texts around some bytes do not change
how these are decoded, nor do they change themselves. -/
theorem native_text_decoded (state : State) (record : NativeRecord) (bytes : List UInt8)
    (shows : record.Shows state.memory bytes) :
    ∃ text warnings, (unpack record).run state = (.ok (some (.string text)),
        { state with
          memory := state.memory.free record.payload.toAddress
          events := state.events ++ .unpacking .string record.length :: warnings }) ∧
      (∀ chars, Utf8.Replaces bytes chars ↔ chars = text.toList) ∧
      (Utf8.WellFormed bytes → Utf8.bytes text = bytes ∧ warnings = []) ∧
      (¬ Utf8.WellFormed bytes →
        Utf8.bytes text ≠ bytes ∧ warnings = [.repaired record.length]) ∧
      ∀ (other : State) (longer : NativeRecord) before after,
        longer.Shows other.memory (Utf8.bytes before ++ bytes ++ Utf8.bytes after) →
        ((unpack longer).run other).1 = .ok (some (.string (before ++ text ++ after))) := by
  refine ⟨_, _, run_unpack_of_shows shows, ?_, fun wellFormed => repaired_of_wellFormed wellFormed _,
    fun damaged => repaired_of_damaged damaged _, ?_⟩
  · intro chars
    rw [String.toList_ofList]
    exact Utf8.replaces_iff
  · intro other longer before after around
    rw [run_unpack_of_shows around, Utf8.repair_between]
    simp [String.append_assoc]

namespace Sample

def damagedBytes : List UInt8 := [0xed, 0xa0, 0x80, 0xf0, 0x9f, 0x98]

def surrounded : List UInt8 := Utf8.bytes "é" ++ damagedBytes ++ Utf8.bytes "😀"

def damagedState : State where
  memory := { blocks := Std.TreeMap.empty.insert 4096 surrounded }

end Sample

theorem damaged_text_decoded :
    ∃ text after, (NativeRecord.mk 6 (.ofAddress 4098) 6).Shows Sample.damagedState.memory
        Sample.damagedBytes ∧
      (unpack ⟨6, .ofAddress 4098, 6⟩).run Sample.damagedState = (.ok (some (.string text)), after) ∧
      after.events = [.unpacking .string 6, .repaired 6] ∧
      text.toList = ['\ufffd', '\ufffd', '\ufffd', '\ufffd'] ∧
      ((unpack ⟨6, .ofAddress 4096, 12⟩).run Sample.damagedState).1 =
        .ok (some (.string ("é" ++ text ++ "😀"))) := by
  have shows : (NativeRecord.mk 6 (.ofAddress 4098) 6).Shows Sample.damagedState.memory
      Sample.damagedBytes := ⟨rfl, rfl, by decide, by decide +kernel⟩
  have around : (NativeRecord.mk 6 (.ofAddress 4096) 12).Shows Sample.damagedState.memory
      Sample.surrounded :=
    ⟨rfl, by decide +kernel, by decide, by decide +kernel⟩
  have damaged : ¬ Utf8.WellFormed Sample.damagedBytes := by
    rw [Utf8.wellFormed_iff]
    decide
  obtain ⟨text, warnings, ran, replaces, _, warned, between⟩ :=
    native_text_decoded Sample.damagedState _ _ shows
  refine ⟨text, _, shows, ran, ?_, ?_, between _ _ _ _ around⟩
  · rw [(warned damaged).2]
    rfl
  · rw [← (replaces _).1 (Utf8.replaces_repair _)]
    rfl

end Boundary
