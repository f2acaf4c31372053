import Boundary.Proofs.Decoding.Outcome

/-!
What the decoder looks at. Main statement: two records are decoded alike when they agree in the bytes
that their tag gives a meaning to, whatever native code left in the others.
-/

namespace Boundary

namespace NativeRecord

/-- Two records that agree in their tag and in the bytes that it gives a meaning to, and in their
length if these bytes are the place of a text. -/
structure Agrees (left right : NativeRecord) : Prop where
  raw : left.raw = right.raw
  bytes : ∀ tag, left.tag? = some tag →
    left.payload.bytes.take tag.payloadSize = right.payload.bytes.take tag.payloadSize
  length : left.tag? = some .string → left.length = right.length

variable {left right : NativeRecord}

theorem Agrees.tag? (agrees : left.Agrees right) : left.tag? = right.tag? := by
  rw [NativeRecord.tag?, NativeRecord.tag?, agrees.raw]

theorem Agrees.toNat (agrees : left.Agrees right) {tag : Tag} (tagged : left.tag? = some tag) :
    left.payload.toNat tag.payloadSize = right.payload.toNat tag.payloadSize := by
  rw [Payload.toNat, Payload.toNat, agrees.bytes tag tagged]

theorem Agrees.toAddress (agrees : left.Agrees right) (text : left.tag? = some .string) :
    left.payload.toAddress = right.payload.toAddress :=
  agrees.toNat text

end NativeRecord

theorem unpackAs_of_agrees {left right : NativeRecord} (agrees : left.Agrees right) {tag : Tag}
    (tagged : left.tag? = some tag) : unpackAs left tag = unpackAs right tag := by
  have number := agrees.toNat tagged
  cases tag with
  | invalid => rfl
  | bool =>
      have same : left.payload.toBool = right.payload.toBool :=
        congrArg (fun number => number != 0) number
      simp only [unpackAs, same]
  | int32 =>
      have same : left.payload.toInt32 = right.payload.toInt32 :=
        congrArg (fun number => (UInt32.ofNat number).toInt32) number
      simp only [unpackAs, same]
  | int64 =>
      have same : left.payload.toInt64 = right.payload.toInt64 :=
        congrArg (fun number => (UInt64.ofNat number).toInt64) number
      simp only [unpackAs, same]
  | float32 =>
      have same : left.payload.toFloat32 = right.payload.toFloat32 := congrArg UInt32.ofNat number
      simp only [unpackAs, same]
  | float64 =>
      have same : left.payload.toFloat64 = right.payload.toFloat64 := congrArg UInt64.ofNat number
      simp only [unpackAs, same]
  | string =>
      have same : left.payload.toAddress = right.payload.toAddress := number
      simp only [unpackAs, same, agrees.length tagged]
  | ownedHandle =>
      have same : left.payload.toAddress = right.payload.toAddress := number
      simp only [unpackAs, same]
  | object | any => simp only [unpackAs, agrees.raw]

/-- Two runs that end alike: with one outcome, one registry, the same references to objects, and with
the same addresses released in memories of their own. -/
structure EndAlike {result : Type} (first second : Memory)
    (one two : Except Halt result × State) : Prop where
  outcome : one.1 = two.1
  registry : one.2.registry = two.2.registry
  objects : one.2.objects = two.2.objects
  memory : ∃ freed, one.2.memory = first.freeAll freed ∧ two.2.memory = second.freeAll freed

section TwoStates

variable {first second : State} (registry : first.registry = second.registry)
  (objects : first.objects = second.objects)

include registry objects

theorem unpackText_endAlike (address : Address) (length : Int32)
    (bytes : first.memory.read? address length.toInt.toNat =
      second.memory.read? address length.toInt.toNat) :
    EndAlike first.memory second.memory ((unpackText address length).run first)
      ((unpackText address length).run second) := by
  have kept : ∃ freed, first.memory = first.memory.freeAll freed ∧
      second.memory = second.memory.freeAll freed := ⟨[], rfl, rfl⟩
  by_cases negative : length < 0
  · simp only [unpackText, bufferBytes, if_pos negative, Action.run_bind, Action.run_panic]
    exact ⟨rfl, registry, objects, kept⟩
  · by_cases null : address = 0 ∧ length ≠ 0
    · simp only [unpackText, bufferBytes, if_neg negative, if_pos null, Action.run_bind,
        Action.run_panic]
      exact ⟨rfl, registry, objects, kept⟩
    · cases read : first.memory.read? address length.toInt.toNat with
      | none =>
          rw [read] at bytes
          simp only [unpackText, bufferBytes, if_neg negative, if_neg null, Action.run_bind,
            Action.run_get, read, ← bytes, Action.run_halt]
          exact ⟨rfl, registry, objects, kept⟩
      | some found =>
          rw [read] at bytes
          simp only [unpackText, Action.run_bind, run_bufferBytes negative null read,
            run_bufferBytes negative null bytes.symm, run_decodeText]
          exact ⟨rfl, registry, objects, [address], rfl, rfl⟩

theorem unpackAs_endAlike (record : NativeRecord) (tag : Tag)
    (bytes : tag = .string →
      first.memory.read? record.payload.toAddress record.length.toInt.toNat =
        second.memory.read? record.payload.toAddress record.length.toInt.toNat) :
    EndAlike first.memory second.memory ((unpackAs record tag).run first)
      ((unpackAs record tag).run second) := by
  have kept : ∃ freed, first.memory = first.memory.freeAll freed ∧
      second.memory = second.memory.freeAll freed := ⟨[], rfl, rfl⟩
  cases tag with
  | string =>
      have text := unpackText_endAlike registry objects record.payload.toAddress record.length
        (bytes rfl)
      simp only [unpackAs, Action.run_bind]
      rcases one : (unpackText record.payload.toAddress record.length).run first with ⟨outcome, after⟩
      rcases two : (unpackText record.payload.toAddress record.length).run second with ⟨other, final⟩
      rw [one, two] at text
      obtain ⟨rfl, registry, objects, memory⟩ := text
      cases outcome with
      | ok text => exact ⟨rfl, registry, objects, memory⟩
      | error halt => exact ⟨rfl, registry, objects, memory⟩
  | ownedHandle =>
      simp only [unpackAs, Action.run_bind, run_unpackHandle, ← registry]
      cases Handle.ofAddress? record.payload.toAddress with
      | none => exact ⟨rfl, registry, objects, kept⟩
      | some handle =>
          cases resolved : first.registry.resolve? handle with
          | none =>
              simp only [resolved]
              exact ⟨rfl, registry, objects, kept⟩
          | some object =>
              simp only [resolved, objects]
              exact ⟨rfl, rfl, rfl, kept⟩
  | _ => exact ⟨rfl, registry, objects, kept⟩

theorem unpack_endAlike {left right : NativeRecord} (agrees : left.Agrees right)
    (bytes : left.tag? = some .string →
      first.memory.read? left.payload.toAddress left.length.toInt.toNat =
        second.memory.read? right.payload.toAddress right.length.toInt.toNat) :
    EndAlike first.memory second.memory ((unpack left).run first) ((unpack right).run second) := by
  cases tagged : left.tag? with
  | none =>
      have unknown : right.tag? = none := agrees.tag? ▸ tagged
      simp only [unpack, tagged, unknown, agrees.raw, Action.run_abort]
      exact ⟨rfl, registry, objects, [], rfl, rfl⟩
  | some tag =>
      have known : right.tag? = some tag := agrees.tag? ▸ tagged
      rw [run_unpack_of_tag tagged, run_unpack_of_tag known, unpackAs_of_agrees agrees tagged]
      have read : tag = .string →
          first.memory.read? right.payload.toAddress right.length.toInt.toNat =
            second.memory.read? right.payload.toAddress right.length.toInt.toNat := by
        rintro rfl
        rw [← bytes tagged, agrees.toAddress tagged, agrees.length tagged]
      let begun (state : State) (record : NativeRecord) : State := { state with
        events := state.events ++ [.unpacking tag record.length] }
      have sameRegistry : (begun first left).registry = (begun second right).registry := registry
      have sameObjects : (begun first left).objects = (begun second right).objects := objects
      exact unpackAs_endAlike sameRegistry sameObjects right tag read

end TwoStates

structure State.SameButLog (first second : State) : Prop where
  registry : first.registry = second.registry
  objects : first.objects = second.objects
  memory : first.memory = second.memory

section Batch

variable {first second : State}

theorem EndAlike.sameButLog {result : Type} {memory : Memory} {one two : Except Halt result × State}
    (alike : EndAlike memory memory one two) : one.2.SameButLog two.2 := by
  obtain ⟨freed, oneMemory, twoMemory⟩ := alike.memory
  exact ⟨alike.registry, alike.objects, oneMemory.trans twoMemory.symm⟩

theorem unpack_sameButLog {left right : NativeRecord} (agrees : left.Agrees right)
    (same : first.SameButLog second) :
    ((unpack left).run first).1 = ((unpack right).run second).1 ∧
      ((unpack left).run first).2.SameButLog ((unpack right).run second).2 := by
  have read (text : left.tag? = some .string) :
      first.memory.read? left.payload.toAddress left.length.toInt.toNat =
        second.memory.read? right.payload.toAddress right.length.toInt.toNat := by
    rw [same.memory, agrees.toAddress text, agrees.length text]
  have alike := unpack_endAlike same.registry same.objects agrees read
  rw [same.memory] at alike
  exact ⟨alike.outcome, alike.sameButLog⟩

theorem dropValue_sameButLog (value : Option Value) (same : first.SameButLog second) :
    ((dropValue value).run first).2.SameButLog ((dropValue value).run second).2 := by
  unfold dropValue
  split
  · rename_i object
    exact ⟨same.registry, congrArg (Objects.drop · object) same.objects, same.memory⟩
  · exact same

theorem unpackAll_sameButLog {left right : List NativeRecord}
    (agree : List.Forall₂ NativeRecord.Agrees left right) (same : first.SameButLog second) :
    ((unpackAll left).run first).1 = ((unpackAll right).run second).1 ∧
      ((unpackAll left).run first).2.SameButLog ((unpackAll right).run second).2 := by
  induction agree generalizing first second with
  | nil => exact ⟨rfl, same⟩
  | @cons one other left right agrees _ ih =>
      obtain ⟨outcome, after⟩ := unpack_sameButLog agrees same
      rw [run_unpackAll_cons, run_unpackAll_cons]
      rcases firstRan : (unpack one).run first with ⟨result, firstAfter⟩
      rcases secondRan : (unpack other).run second with ⟨_, secondAfter⟩
      rw [firstRan, secondRan] at outcome after
      cases outcome
      cases result with
      | error halt => exact ⟨rfl, after⟩
      | ok value =>
          obtain ⟨outcomes, final⟩ := ih after
          rcases firstRest : (unpackAll left).run firstAfter with ⟨results, firstFinal⟩
          rcases secondRest : (unpackAll right).run secondAfter with ⟨_, secondFinal⟩
          rw [firstRest, secondRest] at outcomes final
          cases outcomes
          simp only [firstRest, secondRest]
          match results with
          | .ok values => exact ⟨rfl, final⟩
          | .error (.panic cause) => exact ⟨rfl, dropValue_sameButLog value final⟩
          | .error (.abort _) | .error (.outOfMemory _) | .error (.fault _ _) => exact ⟨rfl, final⟩

end Batch

/-- From two states with one registry, two records with one tag are decoded alike when they agree in
the bytes that the tag gives a meaning to; a text must also have the same length and the same bytes in
its buffer. The rest of the payload, the length of all others and the rest of native memory do not
matter. Batches of such records are decoded alike as well, and leave states that differ in their logs
only. -/
theorem decoding_reads_designated_bytes (first second : State)
    (registry : first.registry = second.registry) (objects : first.objects = second.objects) :
    (∀ left right : NativeRecord, left.Agrees right →
        (left.tag? = some .string →
          first.memory.read? left.payload.toAddress left.length.toInt.toNat =
            second.memory.read? right.payload.toAddress right.length.toInt.toNat) →
        EndAlike first.memory second.memory ((unpack left).run first) ((unpack right).run second)) ∧
      ∀ left right : List NativeRecord, List.Forall₂ NativeRecord.Agrees left right →
        first.memory = second.memory →
        ((unpackAll left).run first).1 = ((unpackAll right).run second).1 ∧
          ((unpackAll left).run first).2.SameButLog ((unpackAll right).run second).2 :=
  ⟨fun _ _ agrees bytes => unpack_endAlike registry objects agrees bytes,
    fun _ _ agree memory => unpackAll_sameButLog agree ⟨registry, objects, memory⟩⟩

namespace Sample

def filled (low : List UInt8) (above : UInt8) : Payload where
  bytes := (low ++ List.replicate 8 above).take 8
  length_bytes := by simp

def oddNumber : List UInt8 := [0x01, 0x00, 0xc0, 0x7f]

def textBefore (rest : List UInt8) : State where
  memory := { blocks := Std.TreeMap.empty.insert 4096 ([0x68, 0x69] ++ rest) }

end Sample

theorem garbage_not_decoded :
    ((unpack ⟨6, .ofAddress 4096, 2⟩).run (Sample.textBefore [])).1 =
        ((unpack ⟨6, .ofAddress 4096, 2⟩).run (Sample.textBefore [0xff, 0x00])).1 ∧
      ((unpackAll [⟨4, Sample.filled Sample.oddNumber 0x00, 0⟩, ⟨0, .zero, 0⟩]).run {}).1 =
        ((unpackAll [⟨4, Sample.filled Sample.oddNumber 0xa5, -7⟩,
          ⟨0, Sample.filled [] 0xa5, 9⟩]).run {}).1 := by
  have texts : (NativeRecord.mk 6 (.ofAddress 4096) 2).Agrees ⟨6, .ofAddress 4096, 2⟩ :=
    ⟨rfl, fun _ _ => rfl, fun _ => rfl⟩
  have read : (Sample.textBefore []).memory.read? 4096 2 =
      (Sample.textBefore [0xff, 0x00]).memory.read? 4096 2 := by decide +kernel
  have numbers : (NativeRecord.mk 4 (Sample.filled Sample.oddNumber 0x00) 0).Agrees
      ⟨4, Sample.filled Sample.oddNumber 0xa5, -7⟩ := by
    refine ⟨rfl, ?_, fun text => absurd text (by decide)⟩
    rintro tag ⟨⟩
    rfl
  have nothing : (NativeRecord.mk 0 .zero 0).Agrees ⟨0, Sample.filled [] 0xa5, 9⟩ := by
    refine ⟨rfl, ?_, fun text => absurd text (by decide)⟩
    rintro tag ⟨⟩
    rfl
  exact ⟨((decoding_reads_designated_bytes (Sample.textBefore []) (Sample.textBefore [0xff, 0x00]) rfl
      rfl).1 _ _ texts fun _ => read).outcome,
    ((decoding_reads_designated_bytes {} {} rfl rfl).2 _ _ (.cons numbers (.cons nothing .nil)) rfl).1⟩

end Boundary
