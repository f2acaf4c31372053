import Boundary.Proofs.Memory
import Boundary.Proofs.Text.Repair
import Boundary.Proofs.World
import Mathlib.Tactic.IntervalCases

/-!
How decoding a record can end. Its tag, length and pointer and the table of handles settle whether it
is decoded, panics or ends the process; memory is asked only for the bytes of a text. Main statement:
the exact outcome of every record and of every batch.
-/

namespace Boundary

theorem Tag.exists_of_le {raw : Int32} (low : 0 ≤ raw) (high : raw ≤ 9) :
    ∃ tag : Tag, tag.ordinal = raw := by
  have same : Int32.ofInt raw.toInt = raw := Int32.ofInt_toInt raw
  rw [Int32.le_iff_toInt_le] at low high
  rw [← same]
  change 0 ≤ raw.toInt at low
  change raw.toInt ≤ 9 at high
  generalize raw.toInt = number at low high
  interval_cases number
  exacts [⟨invalid, rfl⟩, ⟨bool, rfl⟩, ⟨int32, rfl⟩, ⟨int64, rfl⟩, ⟨float32, rfl⟩, ⟨float64, rfl⟩,
    ⟨string, rfl⟩, ⟨object, rfl⟩, ⟨any, rfl⟩, ⟨ownedHandle, rfl⟩]

namespace NativeRecord

def Decodes (registry : Registry) (record : NativeRecord) : Prop :=
  (0 ≤ record.raw ∧ record.raw ≤ 5) ∨
    (record.raw = 6 ∧ 0 ≤ record.length ∧
      (record.payload.toAddress ≠ 0 ∨ record.length = 0)) ∨
    (record.raw = 9 ∧ ∃ handle ∈ Handle.ofAddress? record.payload.toAddress,
      (registry.resolve? handle).isSome = true)

instance (registry : Registry) (record : NativeRecord) : Decidable (record.Decodes registry) :=
  inferInstanceAs (Decidable (_ ∨ _ ∨ _ ∧ ∃ handle ∈ Handle.ofAddress? _, _))

def Misstated (record : NativeRecord) : Prop :=
  record.raw = 6 ∧ (record.length < 0 ∨ record.payload.toAddress = 0 ∧ 0 < record.length)

instance (record : NativeRecord) : Decidable record.Misstated :=
  inferInstanceAs (Decidable (_ ∧ _))

def Readable (memory : Memory) (record : NativeRecord) : Prop :=
  record.raw = 6 → 0 < record.length → record.payload.toAddress ≠ 0 →
    ∃ bytes, memory.read? record.payload.toAddress record.length.toInt.toNat = some bytes

def buffer? (record : NativeRecord) : Option Address :=
  if record.raw = 6 then some record.payload.toAddress else none

/-- What stops the decoding of a record, whatever lies in native memory. -/
def halt? (registry : Registry) (record : NativeRecord) : Option Halt :=
  match record.tag? with
  | some .string =>
    if record.length < 0 then
      some (.panic (.negativeLength record.length))
    else if record.payload.toAddress = 0 ∧ record.length ≠ 0 then
      some (.panic (.nullBuffer record.length))
    else
      none
  | some .ownedHandle =>
    match Handle.ofAddress? record.payload.toAddress with
    | none => some (.abort .nullHandle)
    | some handle =>
      if (registry.resolve? handle).isSome then none else some (.abort .strayHandle)
  | none | some .object | some .any => some (.abort (.unsupportedTag record.raw))
  | some _ => none

variable {registry : Registry} {record : NativeRecord}

theorem raw_of_tag? {tag : Tag} (tagged : record.tag? = some tag) : record.raw = tag.ordinal :=
  ((Tag.ofOrdinal?_eq_some_iff _ _).1 tagged).symm

theorem raw_outside (raw : Int32) (low : 0 ≤ raw) (high : raw ≤ 9) (unknown : record.tag? = none) :
    record.raw ≠ raw := by
  rintro rfl
  obtain ⟨tag, same⟩ := Tag.exists_of_le low high
  have known : record.tag? = some tag := (Tag.ofOrdinal?_eq_some_iff _ _).2 same
  rw [unknown] at known
  cases known

theorem decodes_iff : record.Decodes registry ↔ record.halt? registry = none := by
  cases tagged : record.tag? with
  | none =>
      have text := raw_outside 6 (by decide) (by decide) tagged
      have handle := raw_outside 9 (by decide) (by decide) tagged
      simp only [halt?, tagged, Decodes, text, handle, false_and, or_false, reduceCtorEq, iff_false]
      rintro ⟨low, high⟩
      exact raw_outside record.raw low (Int32.le_trans high (by decide)) tagged rfl
  | some tag =>
      have raw := raw_of_tag? tagged
      cases tag with
      | string =>
          have sound : 0 ≤ record.length ∧ (record.payload.toAddress ≠ 0 ∨ record.length = 0) ↔
              ¬ record.length < 0 ∧ ¬ (record.payload.toAddress = 0 ∧ record.length ≠ 0) := by
            grind
          simp only [Decodes, halt?, tagged, raw, Tag.ordinal, sound]
          split
          · simp [*]
          · split <;> simp [*]
      | ownedHandle =>
          simp only [Decodes, halt?, tagged, raw, Tag.ordinal]
          cases carried : Handle.ofAddress? record.payload.toAddress with
          | none => simp
          | some handle => simp [← Option.isSome_iff_ne_none]
      | _ => simp [Decodes, halt?, tagged, raw, Tag.ordinal]

theorem exists_halt (undecodable : ¬ record.Decodes registry) :
    ∃ halt, record.halt? registry = some halt :=
  Option.ne_none_iff_exists'.1 (mt decodes_iff.2 undecodable)

theorem misstated_iff (registry : Registry) :
    record.Misstated ↔ ∃ cause, record.halt? registry = some (.panic cause) := by
  cases tagged : record.tag? with
  | none =>
      have text := raw_outside 6 (by decide) (by decide) tagged
      simp [Misstated, halt?, tagged, text]
  | some tag =>
      have raw := raw_of_tag? tagged
      cases tag with
      | string =>
          simp only [Misstated, halt?, tagged, raw, Tag.ordinal, true_and]
          split
          · rename_i negative
            simp [negative]
          · rename_i sound
            have bytes : 0 < record.length ↔ record.length ≠ 0 := by grind
            split
            · rename_i null
              simp [bytes, null]
            · rename_i present
              simp [sound, bytes, present]
      | ownedHandle =>
          simp only [Misstated, halt?, tagged, raw, Tag.ordinal]
          cases carried : Handle.ofAddress? record.payload.toAddress with
          | none => simp
          | some handle =>
              simp only
              split <;> simp
      | _ => simp [Misstated, halt?, tagged, raw, Tag.ordinal]

theorem panic_or_abort_of_halt? {halt : Halt} (stopped : record.halt? registry = some halt) :
    (∃ cause, halt = .panic cause) ∨ ∃ cause, halt = .abort cause := by
  unfold halt? at stopped
  repeat' split at stopped
  all_goals cases stopped
  all_goals simp

theorem Decodes.read {memory : Memory} (decodes : record.Decodes registry) (text : record.raw = 6)
    (readable : record.Readable memory) :
    ∃ bytes, memory.read? record.payload.toAddress record.length.toInt.toNat = some bytes := by
  simp only [Decodes, text] at decodes
  obtain ⟨_, high⟩ | ⟨_, sound, present⟩ | ⟨other, _⟩ := decodes
  · exact absurd high (by decide)
  · by_cases empty : record.length = 0
    · exact ⟨[], by simp [Memory.read?, empty]⟩
    · exact readable text (Int32.lt_of_le_of_ne sound (Ne.symm empty))
        (present.resolve_right empty)
  · exact absurd other (by decide)

end NativeRecord

section Text

variable {state : State} {address : Address} {length : Int32} {bytes : List UInt8}

theorem run_bufferBytes (sound : ¬ length < 0) (present : ¬ (address = 0 ∧ length ≠ 0))
    (read : state.memory.read? address length.toInt.toNat = some bytes) :
    (bufferBytes address length).run state = (.ok bytes, state) := by
  rw [bufferBytes, if_neg sound, if_neg present]
  simp only [Action.run_bind, Action.run_get, read, Action.run_pure]

def repairWarnings (length : Int32) (bytes : List UInt8) : List Event :=
  if (Utf8.decode? bytes).isSome then [] else [.repaired length]

theorem run_decodeText (length : Int32) (bytes : List UInt8) (state : State) :
    (decodeText length bytes).run state =
      (.ok (String.ofList (Utf8.repair bytes)),
        { state with events := state.events ++ repairWarnings length bytes }) := by
  unfold decodeText repairWarnings
  cases decoded : Utf8.decode? bytes with
  | none => simp
  | some text => simp [Utf8.repair_of_decode? decoded]

end Text

def Halt.report : Halt → List Event
  | .abort cause => [.aborting cause]
  | .panic _ | .outOfMemory _ | .fault _ _ => []

section Single

variable {record : NativeRecord} {state : State}

theorem run_unpackAs_of_halt {tag : Tag} (tagged : record.tag? = some tag) {halt : Halt}
    (stopped : record.halt? state.registry = some halt) :
    (unpackAs record tag).run state =
      (.error halt, { state with events := state.events ++ halt.report }) := by
  cases tag with
  | string =>
      simp only [NativeRecord.halt?, tagged] at stopped
      split at stopped
      · rename_i negative
        cases stopped
        simp [unpackAs, unpackText, bufferBytes, negative, Halt.report]
      · rename_i sound
        split at stopped
        · rename_i null
          cases stopped
          simp [unpackAs, unpackText, bufferBytes, sound, null, Halt.report]
        · cases stopped
  | ownedHandle =>
      simp only [NativeRecord.halt?, tagged] at stopped
      simp only [unpackAs, Action.run_bind, run_unpackHandle]
      cases carried : Handle.ofAddress? record.payload.toAddress with
      | none =>
          rw [carried] at stopped
          cases stopped
          simp [Halt.report]
      | some handle =>
          simp only [carried] at stopped
          cases resolved : state.registry.resolve? handle with
          | none =>
              rw [resolved] at stopped
              cases stopped
              simp [resolved, Halt.report]
          | some object => simp [resolved] at stopped
  | object | any =>
      simp only [NativeRecord.halt?, tagged, Option.some.injEq] at stopped
      subst stopped
      simp [unpackAs, Halt.report]
  | _ => simp [NativeRecord.halt?, tagged] at stopped

theorem run_unpack_of_halt {halt : Halt} (stopped : record.halt? state.registry = some halt) :
    ∃ events, (unpack record).run state =
      (.error halt, { state with events := state.events ++ (events ++ halt.report) }) := by
  cases tagged : record.tag? with
  | none =>
      simp only [NativeRecord.halt?, tagged, Option.some.injEq] at stopped
      subst stopped
      exact ⟨[], by simp [unpack, tagged, Halt.report]⟩
  | some tag =>
      let begun : State := { state with
        events := state.events ++ [.unpacking tag record.length] }
      have ended : (unpackAs record tag).run begun = _ := run_unpackAs_of_halt tagged stopped
      refine ⟨[.unpacking tag record.length], ?_⟩
      rw [run_unpack_of_tag tagged, ended]
      simp [begun]

theorem run_unpack_of_text (text : record.raw = 6) (decodes : record.Decodes state.registry)
    {bytes : List UInt8}
    (read : state.memory.read? record.payload.toAddress record.length.toInt.toNat = some bytes) :
    (unpack record).run state = (.ok (some (.string (String.ofList (Utf8.repair bytes)))),
      { state with
        memory := state.memory.free record.payload.toAddress
        events := state.events ++ .unpacking .string record.length ::
          repairWarnings record.length bytes }) := by
  have tagged : record.tag? = some .string := (Tag.ofOrdinal?_eq_some_iff _ _).2 text.symm
  have running := NativeRecord.decodes_iff.1 decodes
  simp only [NativeRecord.halt?, tagged] at running
  split at running
  · cases running
  · rename_i sound
    split at running
    · cases running
    · rename_i present
      let begun : State := { state with
        events := state.events ++ [.unpacking .string record.length] }
      have bytesRead : (bufferBytes record.payload.toAddress record.length).run begun =
          (.ok bytes, begun) := run_bufferBytes sound present read
      rw [run_unpack_of_tag tagged]
      simp only [unpackAs, unpackText, Action.run_bind]
      rw [bytesRead]
      simp [run_decodeText, freeBlock, begun]

theorem run_unpack_of_decodes (decodes : record.Decodes state.registry)
    (readable : record.Readable state.memory) :
    ∃ value after, (unpack record).run state = (.ok value, after) ∧
      after.registry = state.registry ∧
      after.memory = state.memory.freeAll record.buffer?.toList := by
  by_cases text : record.raw = 6
  · obtain ⟨bytes, read⟩ := decodes.read text readable
    refine ⟨_, _, run_unpack_of_text text decodes read, rfl, ?_⟩
    simp [NativeRecord.buffer?, text, Memory.freeAll]
  · have running := NativeRecord.decodes_iff.1 decodes
    cases tagged : record.tag? with
    | none => simp [NativeRecord.halt?, tagged] at running
    | some tag =>
        have raw := NativeRecord.raw_of_tag? tagged
        have kept : state.memory.freeAll record.buffer?.toList = state.memory := by
          simp [NativeRecord.buffer?, text, Memory.freeAll]
        rw [run_unpack_of_tag tagged, kept]
        cases tag with
        | string => exact absurd raw text
        | object | any => simp [NativeRecord.halt?, tagged] at running
        | ownedHandle =>
            simp only [NativeRecord.halt?, tagged] at running
            simp only [unpackAs, Action.run_bind, run_unpackHandle]
            cases carried : Handle.ofAddress? record.payload.toAddress with
            | none => simp [carried] at running
            | some handle =>
                cases resolved : state.registry.resolve? handle with
                | none => simp [carried, resolved] at running
                | some object =>
                    simp only [resolved]
                    exact ⟨_, _, rfl, rfl, rfl⟩
        | _ => exact ⟨_, _, rfl, rfl, rfl⟩

theorem run_unpack_of_unreadable (unreadable : ¬ record.Readable state.memory) :
    ((unpack record).run state).1 =
      .error (.fault record.payload.toAddress record.length.toInt.toNat) := by
  simp only [NativeRecord.Readable, not_forall, not_exists] at unreadable
  obtain ⟨text, positive, present, missing⟩ := unreadable
  have tagged : record.tag? = some .string := (Tag.ofOrdinal?_eq_some_iff _ _).2 text.symm
  have unread : state.memory.read? record.payload.toAddress record.length.toInt.toNat = none :=
    Option.eq_none_iff_forall_ne_some.2 missing
  have sound : ¬ record.length < 0 := Int32.not_lt.2 (Int32.le_of_lt positive)
  have pointed : ¬ (record.payload.toAddress = 0 ∧ record.length ≠ 0) := fun null => present null.1
  rw [run_unpack_of_tag tagged, unpackAs, unpackText, bufferBytes, if_neg sound, if_neg pointed]
  simp only [Action.run_bind, Action.run_get, unread, Action.run_halt]

theorem unpack_ok_iff : (∃ value, ((unpack record).run state).1 = .ok value) ↔
    record.Decodes state.registry ∧ record.Readable state.memory := by
  cases stopped : record.halt? state.registry with
  | some halt =>
      obtain ⟨events, ran⟩ := run_unpack_of_halt stopped
      simp [ran, NativeRecord.decodes_iff, stopped]
  | none =>
      have decodes : record.Decodes state.registry := NativeRecord.decodes_iff.2 stopped
      by_cases readable : record.Readable state.memory
      · obtain ⟨value, after, ran, _⟩ := run_unpack_of_decodes decodes readable
        simp [ran, decodes, readable]
      · simp [run_unpack_of_unreadable readable, readable]

theorem unpack_panic_iff : (∃ cause, ((unpack record).run state).1 = .error (.panic cause)) ↔
    record.Misstated := by
  rw [NativeRecord.misstated_iff state.registry]
  cases stopped : record.halt? state.registry with
  | some halt =>
      obtain ⟨events, ran⟩ := run_unpack_of_halt stopped
      simp [ran]
  | none =>
      have decodes : record.Decodes state.registry := NativeRecord.decodes_iff.2 stopped
      by_cases readable : record.Readable state.memory
      · obtain ⟨value, after, ran, _⟩ := run_unpack_of_decodes decodes readable
        simp [ran]
      · simp [run_unpack_of_unreadable readable]

theorem unpack_abort (undecodable : ¬ record.Decodes state.registry)
    (stated : ¬ record.Misstated) :
    ∃ cause events, (unpack record).run state =
        (.error (.abort cause), { state with events := state.events ++ events }) ∧
      events.getLast? = some (.aborting cause) := by
  cases stopped : record.halt? state.registry with
  | none => exact absurd (NativeRecord.decodes_iff.2 stopped) undecodable
  | some halt =>
      rcases NativeRecord.panic_or_abort_of_halt? stopped with ⟨cause, rfl⟩ | ⟨cause, rfl⟩
      · exact absurd ((NativeRecord.misstated_iff _).2 ⟨cause, stopped⟩) stated
      · obtain ⟨events, ran⟩ := run_unpack_of_halt stopped
        exact ⟨cause, _, ran, by simp [Halt.report]⟩

end Single

def buffers (records : List NativeRecord) : List Address :=
  records.filterMap NativeRecord.buffer?

/-- Every text of a batch can be read once the buffers before it are released. -/
def ReadableInTurn : Memory → List NativeRecord → Prop
  | _, [] => True
  | memory, record :: rest =>
    record.Readable memory ∧ ReadableInTurn (memory.freeAll record.buffer?.toList) rest

@[simp] theorem buffers_nil : buffers [] = [] := rfl

theorem buffers_append (earlier later : List NativeRecord) :
    buffers (earlier ++ later) = buffers earlier ++ buffers later :=
  List.filterMap_append

theorem buffers_cons (record : NativeRecord) (rest : List NativeRecord) :
    buffers (record :: rest) = record.buffer?.toList ++ buffers rest := by
  unfold buffers
  cases found : record.buffer? <;> simp [found]

theorem buffers_singleton (record : NativeRecord) : buffers [record] = record.buffer?.toList := by
  rw [buffers_cons, buffers_nil, List.append_nil]

theorem dropValue_memory (value : Option Value) (state : State) :
    ((dropValue value).run state).2.memory = state.memory := by
  unfold dropValue
  split <;> rfl

section Batch

variable {state : State}

theorem run_unpackAll_of_decodes {records : List NativeRecord}
    (decodes : ∀ record ∈ records, record.Decodes state.registry)
    (readable : ReadableInTurn state.memory records) :
    ∃ values after, (unpackAll records).run state = (.ok values, after) ∧
      values.length = records.length ∧ after.registry = state.registry ∧
      after.memory = state.memory.freeAll (buffers records) := by
  induction records generalizing state with
  | nil => exact ⟨[], state, rfl, rfl, rfl, rfl⟩
  | cons record rest ih =>
      obtain ⟨value, middle, ran, registry, memory⟩ :=
        run_unpack_of_decodes (decodes record List.mem_cons_self) readable.1
      obtain ⟨values, after, ranRest, length, registryRest, memoryRest⟩ :=
        ih (fun other member => registry ▸ decodes other (List.mem_cons_of_mem _ member))
          (memory ▸ readable.2)
      refine ⟨value :: values, after, ?_, ?_, registryRest.trans registry, ?_⟩
      · simp only [run_unpackAll_cons, ran, ranRest]
      · rw [List.length_cons, length, List.length_cons]
      · rw [memoryRest, memory, buffers_cons, Memory.freeAll_append]

/-- The first record that is stopped stops the batch, after the buffers before it were released. -/
theorem run_unpackAll_of_halt {before : List NativeRecord} {record : NativeRecord} {halt : Halt}
    (decodes : ∀ earlier ∈ before, earlier.Decodes state.registry)
    (readable : ReadableInTurn state.memory before)
    (stopped : record.halt? state.registry = some halt) (rest : List NativeRecord) :
    ∃ after, (unpackAll (before ++ record :: rest)).run state = (.error halt, after) ∧
      after.registry = state.registry ∧
      after.memory = state.memory.freeAll (buffers before) ∧
      ∀ cause, halt = .abort cause → after.events.getLast? = some (.aborting cause) := by
  induction before generalizing state with
  | nil =>
      obtain ⟨events, ran⟩ := run_unpack_of_halt stopped
      refine ⟨{ state with events := state.events ++ (events ++ halt.report) }, ?_, rfl, rfl, ?_⟩
      · rw [List.nil_append, run_unpackAll_cons, ran]
      · rintro cause rfl
        simp [Halt.report]
  | cons first before ih =>
      obtain ⟨value, middle, ran, registry, memory⟩ :=
        run_unpack_of_decodes (decodes first List.mem_cons_self) readable.1
      obtain ⟨after, ranRest, registryRest, memoryRest, last⟩ :=
        ih (fun other member => registry ▸ decodes other (List.mem_cons_of_mem _ member))
          (memory ▸ readable.2) (registry ▸ stopped)
      have released : after.memory = state.memory.freeAll (buffers (first :: before)) := by
        rw [memoryRest, memory, buffers_cons, Memory.freeAll_append]
      cases halt with
      | panic cause =>
          -- The values decoded so far are let go, which touches neither registry nor memory.
          refine ⟨((dropValue value).run after).2, ?_, ?_, ?_, by simp⟩
          · simp only [List.cons_append, run_unpackAll_cons, ran, ranRest]
          · rw [dropValue_registry, registryRest, registry]
          · rw [dropValue_memory, released]
      | abort _ | outOfMemory _ | fault _ _ =>
          refine ⟨after, ?_, registryRest.trans registry, released, last⟩
          simp only [List.cons_append, run_unpackAll_cons, ran, ranRest]

end Batch

/-- From every state, a record is decoded exactly when its tag, length, pointer and handle are in order;
it panics exactly when it is a misstated text; and otherwise it ends the process with nothing
released or registered and with an error as the last event. A batch ends as its first record that is
not decoded does, and just the buffers before that record are released. -/
theorem decoder_outcome_exact (state : State) :
    (∀ record, record.Readable state.memory →
      ((∃ value, ((unpack record).run state).1 = .ok value) ↔ record.Decodes state.registry) ∧
        ((∃ cause, ((unpack record).run state).1 = .error (.panic cause)) ↔ record.Misstated) ∧
        (¬ record.Decodes state.registry → ¬ record.Misstated →
          ∃ cause events, (unpack record).run state =
              (.error (.abort cause), { state with events := state.events ++ events }) ∧
            ∃ event, events.getLast? = some event ∧ event.level = .error)) ∧
      (∀ records, ReadableInTurn state.memory records →
        (∀ record ∈ records, record.Decodes state.registry) →
          ∃ values after, (unpackAll records).run state = (.ok values, after) ∧
            values.length = records.length ∧ after.registry = state.registry ∧
            after.memory = state.memory.freeAll (buffers records)) ∧
      ∀ before record rest, ReadableInTurn state.memory before →
        (∀ earlier ∈ before, earlier.Decodes state.registry) →
        ¬ record.Decodes state.registry →
          ∃ halt after, ((unpack record).run state).1 = .error halt ∧
            (unpackAll (before ++ record :: rest)).run state = (.error halt, after) ∧
            after.registry = state.registry ∧
            after.memory = state.memory.freeAll (buffers before) ∧
            ∀ cause, halt = .abort cause →
              ∃ event, after.events.getLast? = some event ∧ event.level = .error := by
  refine ⟨?_, fun records readable decodes => run_unpackAll_of_decodes decodes readable, ?_⟩
  · intro record readable
    refine ⟨?_, unpack_panic_iff, ?_⟩
    · rw [unpack_ok_iff, and_iff_left readable]
    · intro undecodable stated
      obtain ⟨cause, events, ran, last⟩ := unpack_abort undecodable stated
      exact ⟨cause, events, ran, .aborting cause, last, rfl⟩
  · intro before record rest readable decodes undecodable
    obtain ⟨halt, stopped⟩ := NativeRecord.exists_halt undecodable
    obtain ⟨events, alone⟩ := run_unpack_of_halt stopped
    obtain ⟨after, ran, registry, memory, last⟩ :=
      run_unpackAll_of_halt decodes readable stopped rest
    exact ⟨halt, after, by rw [alone], ran, registry, memory,
      fun cause aborted => ⟨_, last cause aborted, rfl⟩⟩

namespace Sample

def decodable : List NativeRecord := [
  ⟨6, .ofAddress 4096, 3⟩, .invalid, ⟨9, .ofAddress 3, 0⟩, ⟨6, .zero, 0⟩]

def stray : NativeRecord := ⟨9, .ofAddress 1, 0⟩

def unreached : NativeRecord := ⟨6, .ofAddress 4096, -1⟩

def textBytes : List UInt8 := [0x61, 0x00, 0x62]

end Sample

theorem decoder_outcome_after_reuse :
    ∃ world, World.initial.Run World.reuseHistory world ∧
      (∃ value, ((unpack ⟨6, .ofAddress 4096, 3⟩).run world.state).1 = .ok value) ∧
      (∃ values after, (unpackAll Sample.decodable).run world.state = (.ok values, after) ∧
        values.length = 4 ∧ after.registry = world.registry ∧
        after.memory = world.state.memory.freeAll [4096, 0]) ∧
      ∃ after, (unpackAll (Sample.decodable ++ Sample.stray :: [Sample.unreached])).run
          world.state = (.error (.abort .strayHandle), after) ∧
        after.memory = world.state.memory.freeAll [4096, 0] := by
  obtain ⟨world, run, checked⟩ : ∃ world, World.initial.Run World.reuseHistory world ∧
      decide (world.state.memory.read? 4096 3 = some Sample.textBytes ∧
        (∀ record ∈ Sample.decodable, record.Decodes world.registry) ∧
        ¬ Sample.stray.Decodes world.registry ∧
        ((unpack Sample.stray).run world.state).1 = .error (.abort .strayHandle)) = true :=
    World.exists_run
      (World.addressReuse ++ [.native (Std.TreeMap.empty.insert 4096 Sample.textBytes)])
      (by decide +kernel)
  obtain ⟨read, decodes, undecodable, stopped⟩ := of_decide_eq_true checked
  have first : (NativeRecord.mk 6 (.ofAddress 4096) 3).Readable world.state.memory :=
    fun _ _ _ => ⟨_, read⟩
  have readable : ReadableInTurn world.state.memory Sample.decodable :=
    ⟨first, fun text => absurd text (by decide), fun text => absurd text (by decide),
      fun _ positive => absurd positive (by decide), trivial⟩
  obtain ⟨single, whole, broken⟩ := decoder_outcome_exact world.state
  obtain ⟨halt, after, halted, ran, _, memory, _⟩ :=
    broken Sample.decodable Sample.stray [Sample.unreached] readable decodes undecodable
  rw [stopped] at halted
  cases halted
  exact ⟨world, run, (single _ first).1.2 (decodes _ List.mem_cons_self),
    whole _ readable decodes, after, ran, memory⟩

end Boundary
