import Boundary.Proofs.Decoding.Outcome
import Boundary.Proofs.Encoding

/-!
What comes back when native code hands records back. Main statement: records that were encoded from
values, echoed and then decoded give the values again, also when their handles were handed out long
before.
-/

namespace Boundary

/-- The native answer to a record: an object comes back as an owned handle, a text in a buffer with the
same bytes, and everything else as it was. -/
inductive Echoes (memory : Memory) : Record → NativeRecord → Prop
  | scalar (tag : Tag) (payload : Payload) (length : Int32) (plain : tag ≠ .object) :
      Echoes memory ⟨tag, .payload payload, length⟩ ⟨tag.ordinal, payload, length⟩
  | object (payload : Payload) (length : Int32) :
      Echoes memory ⟨.object, .payload payload, length⟩ ⟨Tag.ownedHandle.ordinal, payload, length⟩
  | text (text : String) (length : Int32) (address : Address)
      (buffer : memory.Buffer address (Utf8.bytes text)) :
      Echoes memory ⟨.string, .view text, length⟩
        ⟨Tag.string.ordinal, .ofAddress address, length⟩

def NativeRecord.Apart (left right : NativeRecord) : Prop :=
  left.tag? = some .string → right.tag? = some .string →
    left.payload.toAddress ≠ right.payload.toAddress

structure EchoesAll (memory : Memory) (records : List Record) (answers : List NativeRecord) :
    Prop where
  each : List.Forall₂ (Echoes memory) records answers
  apart : answers.Pairwise NativeRecord.Apart

/-- What a value is when it comes back: itself, bit by bit, but for a platform integer, which comes
back under the tag of its width, and a handle, which comes back as its object. -/
inductive Returned (platform : Platform) (registry : Registry) : Value → Value → Prop
  | bool (value : Bool) : Returned platform registry (.bool value) (.bool value)
  | wide (value : Int64) (width : platform.integerTag = .int64) :
      Returned platform registry (.int value) (.int64 value)
  | narrow (value : Int64) (short : Int32) (width : platform.integerTag = .int32)
      (same : short.toInt = value.toInt) : Returned platform registry (.int value) (.int32 short)
  | int32 (value : Int32) : Returned platform registry (.int32 value) (.int32 value)
  | int64 (value : Int64) : Returned platform registry (.int64 value) (.int64 value)
  | float32 (bits : UInt32) : Returned platform registry (.float32 bits) (.float32 bits)
  | float64 (bits : UInt64) : Returned platform registry (.float64 bits) (.float64 bits)
  | string (text : String) : Returned platform registry (.string text) (.string text)
  | object (object : Object) : Returned platform registry (.object object) (.object object)
  | handle (handle : Handle) (object : Object) (meant : registry.resolve? handle = some object) :
      Returned platform registry (.handle handle) (.object object)

theorem NativeRecord.tag?_ordinal (tag : Tag) (payload : Payload) (length : Int32) :
    (NativeRecord.mk tag.ordinal payload length).tag? = some tag :=
  Tag.ofOrdinal?_ordinal tag

theorem run_unpackText (state : State) {address : Address} {text : String}
    (buffer : state.memory.Buffer address (Utf8.bytes text))
    (short : (Utf8.bytes text).length ≤ greatestLength) :
    (unpackText address (Int32.ofNat (Utf8.bytes text).length)).run state =
      (.ok text, { state with memory := state.memory.free address }) := by
  have length : (Int32.ofNat (Utf8.bytes text).length).toInt = (Utf8.bytes text).length :=
    Int32.toInt_ofNat_of_lt (Nat.lt_succ_of_le short)
  have positive : ¬ Int32.ofNat (Utf8.bytes text).length < 0 := by
    rw [Int32.lt_iff_toInt_lt, length]
    simp
  have present : ¬ (address = 0 ∧ Int32.ofNat (Utf8.bytes text).length ≠ 0) :=
    fun null => Nat.ne_of_gt buffer.positive null.1
  have bytes : (bufferBytes address (Int32.ofNat (Utf8.bytes text).length)).run state =
      (.ok (Utf8.bytes text), state) := by
    apply run_bufferBytes positive present
    rw [length, Int.toNat_natCast]
    exact buffer.read?
  have decoded : (decodeText (Int32.ofNat (Utf8.bytes text).length) (Utf8.bytes text)).run state =
      (.ok text, state) := by
    rw [decodeText, Utf8.decode?_bytes]
    simp
  simp [unpackText, bytes, decoded, freeBlock]

theorem Echoes.free {memory : Memory} {record : Record} {answer : NativeRecord} {address : Address}
    (echo : Echoes memory record answer)
    (apart : answer.tag? = some .string → address ≠ answer.payload.toAddress) :
    Echoes (memory.free address) record answer := by
  cases echo with
  | scalar tag payload length plain => exact .scalar tag payload length plain
  | object payload length => exact .object payload length
  | text text length other buffer =>
      have different := apart (NativeRecord.tag?_ordinal _ _ _)
      rw [Payload.toAddress_ofAddress buffer.inRange] at different
      exact .text text length other (buffer.free different)

def ComesBack (platform : Platform) (earlier : Registry) (state : State) (value : Value)
    (answer : NativeRecord) : Prop :=
  ∃ result after, (unpack answer).run state = (.ok (some result), after) ∧
    Returned platform earlier value result ∧ after.registry = state.registry ∧
    ∀ record other, answer.Apart other → Echoes state.memory record other →
      Echoes after.memory record other

section Echo

variable {platform : Platform} {earlier : Registry} {state : State}

theorem comesBack_scalar {tag : Tag} {payload : Payload} {length : Int32} {value result : Value}
    (reads : unpackAs ⟨tag.ordinal, payload, length⟩ tag = pure (some result))
    (returned : Returned platform earlier value result) :
    ComesBack platform earlier state value ⟨tag.ordinal, payload, length⟩ := by
  have ran := run_unpack_of_tag (NativeRecord.tag?_ordinal tag payload length) state
  rw [reads] at ran
  exact ⟨result, _, ran, returned, rfl, fun _ _ _ echo => echo⟩

theorem comesBack_reference {handle : Handle} {object : Object} {length : Int32} {value : Value}
    (resolved : state.registry.resolve? handle = some object)
    (returned : Returned platform earlier value (.object object)) :
    ComesBack platform earlier state value
      ⟨Tag.ownedHandle.ordinal, .ofAddress handle.number, length⟩ := by
  have ran := run_unpack_of_tag
    (NativeRecord.tag?_ordinal .ownedHandle (.ofAddress handle.number) length) state
  simp only [unpackAs, Action.run_bind, run_unpackHandle, Payload.toAddress_ofHandle,
    Handle.ofAddress?_number, resolved, Action.run_pure] at ran
  exact ⟨.object object, _, ran, returned, rfl, fun _ _ _ echo => echo⟩

theorem comesBack_text {text : String} {address : Address}
    (buffer : state.memory.Buffer address (Utf8.bytes text))
    (short : (Utf8.bytes text).length ≤ greatestLength) :
    ComesBack platform earlier state (.string text)
      ⟨Tag.string.ordinal, .ofAddress address, Int32.ofNat (Utf8.bytes text).length⟩ := by
  have place := Payload.toAddress_ofAddress buffer.inRange
  have ran := run_unpack_of_tag (NativeRecord.tag?_ordinal .string (.ofAddress address)
    (Int32.ofNat (Utf8.bytes text).length)) state
  have read := run_unpackText { state with
    events := state.events ++ [.unpacking .string (Int32.ofNat (Utf8.bytes text).length)] }
    buffer short
  simp only [unpackAs, Action.run_bind, place, read, Action.run_pure] at ran
  refine ⟨.string text, _, ran, .string text, rfl, ?_⟩
  intro record other apart echo
  refine echo.free fun tagged => ?_
  have different := apart (NativeRecord.tag?_ordinal _ _ _) tagged
  rwa [place] at different

theorem comesBack_of_echo {value : Value} {record : Record} {answer : NativeRecord}
    (encoded : Encoded platform earlier state.registry value record)
    (echo : Echoes state.memory record answer) :
    ComesBack platform earlier state value answer := by
  cases encoded with
  | bool value =>
      cases echo
      exact comesBack_scalar (by simp [unpackAs]) (.bool value)
  | wide value width =>
      cases echo
      exact comesBack_scalar (by simp [unpackAs]) (.wide value width)
  | narrow value short width same =>
      cases echo
      exact comesBack_scalar (by simp [unpackAs]) (.narrow value short width same)
  | int32 value =>
      cases echo
      exact comesBack_scalar (by simp [unpackAs]) (.int32 value)
  | int64 value =>
      cases echo
      exact comesBack_scalar (by simp [unpackAs]) (.int64 value)
  | float32 bits =>
      cases echo
      exact comesBack_scalar (by simp [unpackAs]) (.float32 bits)
  | float64 bits =>
      cases echo
      exact comesBack_scalar (by simp [unpackAs]) (.float64 bits)
  | string text short =>
      cases echo with
      | text _ _ address buffer => exact comesBack_text buffer short
  | object object handle resolved =>
      cases echo with
      | scalar _ _ _ plain => exact absurd rfl plain
      | object _ _ => exact comesBack_reference resolved (.object object)
  | handle handle object meant resolved =>
      cases echo with
      | scalar _ _ _ plain => exact absurd rfl plain
      | object _ _ => exact comesBack_reference resolved (.handle handle object meant)

/-- Answers to an encoded batch are decoded to its values, in order. -/
theorem unpackAll_of_echo {values : List Value} {records : List Record}
    {answers : List NativeRecord}
    (encoded : List.Forall₂ (Encoded platform earlier state.registry) values records)
    (echo : EchoesAll state.memory records answers) :
    ∃ results final, (unpackAll answers).run state = (.ok (results.map some), final) ∧
      List.Forall₂ (Returned platform earlier) values results ∧
      final.registry = state.registry := by
  -- Each answer releases its own buffer only, so the rest of the batch is still echoed.
  induction values generalizing state records answers with
  | nil =>
      cases encoded
      cases echo.each
      exact ⟨[], state, rfl, .nil, rfl⟩
  | cons value values ih =>
      obtain ⟨each, apart⟩ := echo
      cases encoded with
      | @cons _ record _ records encodedFirst encodedRest =>
          cases each with
          | @cons _ answer _ answers first rest =>
              rw [List.pairwise_cons] at apart
              obtain ⟨result, after, ran, returned, kept, others⟩ :=
                comesBack_of_echo encodedFirst first
              rw [← kept] at encodedRest
              have echoRest : EchoesAll after.memory records answers :=
                ⟨forall₂_imp_of_mem rest fun record other member =>
                  others record other (apart.1 other member), apart.2⟩
              obtain ⟨results, final, ranRest, returnedRest, keptRest⟩ := ih encodedRest echoRest
              refine ⟨result :: results, final, ?_, .cons returned returnedRest,
                keptRest.trans kept⟩
              rw [run_unpackAll_cons, ran]
              simp only [ranRest]
              rfl

end Echo

end Boundary
