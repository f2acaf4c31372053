import Boundary.Proofs.Decoding.Release
import Boundary.Proofs.Memory.Turnover

/-!
Texts of a negative length. The length is checked before the bytes are copied, and the buffer is
released only after that. Main statement: a text of a negative length keeps its buffer, and a batch
that it stops keeps the buffers of all later texts as well.
-/

namespace Boundary

namespace NativeRecord

variable {registry : Registry} {record : NativeRecord} {length : Int32}

theorem tag?_of_text (text : record.raw = 6) : record.tag? = some .string :=
  (Tag.ofOrdinal?_eq_some_iff _ _).2 text.symm

theorem halt?_of_negative (text : record.raw = 6) (negative : record.length < 0) :
    record.halt? registry = some (.panic (.negativeLength record.length)) := by
  simp only [halt?, tag?_of_text text, if_pos negative]

theorem negative_of_halt? (stopped : record.halt? registry = some (.panic (.negativeLength length))) :
    record.raw = 6 ∧ record.length = length ∧ length < 0 := by
  obtain ⟨text, wrong⟩ := (misstated_iff registry).2 ⟨_, stopped⟩
  by_cases negative : record.length < 0
  · rw [halt?_of_negative text negative] at stopped
    cases stopped
    exact ⟨text, rfl, negative⟩
  · obtain ⟨null, positive⟩ := wrong.resolve_left negative
    have bytes : record.length ≠ 0 := Ne.symm (Int32.ne_of_lt positive)
    simp [halt?, tag?_of_text text, negative, null, bytes] at stopped

end NativeRecord

theorem run_unpack_of_negative {record : NativeRecord} (text : record.raw = 6)
    (negative : record.length < 0) (state : State) :
    (unpack record).run state = (.error (.panic (.negativeLength record.length)),
      { state with events := state.events ++ [.unpacking .string record.length] }) := by
  have tagged := NativeRecord.tag?_of_text text
  rw [run_unpack_of_tag tagged,
    run_unpackAs_of_halt tagged (NativeRecord.halt?_of_negative text negative), Halt.report,
    List.append_nil]

/-- A text of a negative length panics, and all that it changes is the log: its buffer is not released.
In a batch it panics as well, once the records before it are decoded. Every batch that panics for a
negative length has released the buffers before the text at fault, each once, and neither the buffer
of that text nor any later one, which all hold what they held before. -/
theorem negative_length_keeps_buffers (state : State) :
    (∀ record : NativeRecord, record.raw = 6 → record.length < 0 →
      (unpack record).run state = (.error (.panic (.negativeLength record.length)),
        { state with events := state.events ++ [.unpacking .string record.length] })) ∧
      (∀ (before : List NativeRecord) (record : NativeRecord) (rest : List NativeRecord),
        record.raw = 6 → record.length < 0 → ReadableInTurn state.memory before →
        (∀ earlier ∈ before, earlier.Decodes state.registry) →
          ((unpackAll (before ++ record :: rest)).run state).1 =
            .error (.panic (.negativeLength record.length))) ∧
      ∀ (records : List NativeRecord) (length : Int32) (after : State),
        (unpackAll records).run state = (.error (.panic (.negativeLength length)), after) →
          ∃ before record rest, records = before ++ record :: rest ∧
            record.raw = 6 ∧ record.length = length ∧ length < 0 ∧
            after.memory.freed = state.memory.freed ++ buffers before ∧
            ∀ address ∈ buffers (record :: rest), address ∉ buffers before →
              after.memory.freed.count address = state.memory.freed.count address ∧
              after.memory.blocks[address]? = state.memory.blocks[address]? := by
  refine ⟨fun record text negative => run_unpack_of_negative text negative state, ?_, ?_⟩
  · intro before record rest text negative readable decodes
    obtain ⟨after, ran, _⟩ := run_unpackAll_of_halt decodes readable
      (NativeRecord.halt?_of_negative text negative) rest
    rw [ran]
  · intro records length after ran
    obtain ⟨before, record, rest, split, stopped, released⟩ := unpackAll_panic_split ran
    obtain ⟨text, stated, negative⟩ := NativeRecord.negative_of_halt? stopped
    have freed : after.memory.freed = state.memory.freed ++ buffers before := by
      rw [released, Memory.freed_freeAll]
    refine ⟨before, record, rest, split, text, stated, negative, freed, ?_⟩
    intro address _ apart
    constructor
    · rw [freed, List.count_append, List.count_eq_zero.2 apart, Nat.add_zero]
    · rw [released, Memory.getElem?_freeAll, if_neg apart]

namespace Sample

def threeTexts : State where
  memory := { blocks :=
    ((Std.TreeMap.empty.insert 4096 [0x61]).insert 8192 [0x62]).insert 12288 [0x63] }

def firstText : NativeRecord := ⟨6, .ofAddress 4096, 1⟩

def negativeText : NativeRecord := ⟨6, .ofAddress 8192, -1⟩

def lastText : NativeRecord := ⟨6, .ofAddress 12288, 1⟩

end Sample

theorem negative_length_keeps_later_buffers :
    ∃ after, (unpackAll [Sample.firstText, Sample.negativeText, Sample.lastText]).run
        Sample.threeTexts = (.error (.panic (.negativeLength (-1))), after) ∧
      ∃ before record rest,
        [Sample.firstText, Sample.negativeText, Sample.lastText] = before ++ record :: rest ∧
        record.length = -1 ∧ after.memory.freed = buffers before ∧
        ∀ address ∈ buffers (record :: rest), address ∉ buffers before →
          after.memory.blocks[address]? = Sample.threeTexts.memory.blocks[address]? := by
  obtain ⟨_, panics, keeps⟩ := negative_length_keeps_buffers Sample.threeTexts
  have read : Sample.threeTexts.memory.read? 4096 1 = some [0x61] := by decide +kernel
  have readable : ReadableInTurn Sample.threeTexts.memory [Sample.firstText] :=
    ⟨fun _ _ _ => ⟨_, read⟩, trivial⟩
  have panicked := panics [Sample.firstText] Sample.negativeText [Sample.lastText] rfl (by decide)
    readable (by decide)
  have ran : (unpackAll [Sample.firstText, Sample.negativeText, Sample.lastText]).run
      Sample.threeTexts = (.error (.panic (.negativeLength (-1))), _) := Prod.ext panicked rfl
  obtain ⟨before, record, rest, split, _, stated, _, freed, kept⟩ := keeps _ _ _ ran
  exact ⟨_, ran, before, record, rest, split, stated, freed,
    fun address member apart => (kept address member apart).2⟩

/-- Only the first of three buffers is released when the second text panics: those of the second and
the third stay allocated, although both were handed to the decoder. -/
theorem negative_length_leaks_buffers :
    ∃ after, (unpackAll [Sample.firstText, Sample.negativeText, Sample.lastText]).run
        Sample.threeTexts = (.error (.panic (.negativeLength (-1))), after) ∧
      after.memory.freed = [4096] ∧
      after.memory.blocks[(8192 : Address)]? = some [0x62] ∧
      after.memory.blocks[(12288 : Address)]? = some [0x63] ∧
      ((unpack Sample.negativeText).run Sample.threeTexts).1 =
        .error (.panic (.negativeLength (-1))) ∧
      ((unpack Sample.negativeText).run Sample.threeTexts).2.memory.freed = [] := by
  refine ⟨_, Prod.ext (?_ : _ = _) rfl, ?_⟩
  · decide +kernel
  · decide +kernel

end Boundary
