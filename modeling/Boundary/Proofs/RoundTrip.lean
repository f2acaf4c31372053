import Boundary.Proofs.Decoding
import Boundary.Proofs.Handles.Exhaustion

/-!
The round trip of values over whole runs: sent out as a batch, echoed by native code, and taken back
after any other calls.
-/

namespace Boundary

/-- From every state that a program can reach, a batch of values is encoded unless the handles run out,
which takes as many exchanges as there are machine words; and after any further calls the native answers
to it are decoded to the values that were sent, as long as none of their handles was released for the
last time. -/
theorem values_survive_round_trip {history : List Exchange} {world : World}
    (run : World.initial.Run history world) (platform : Platform) {values : List Value}
    (permitted : world.Permits (.packAll platform values))
    (encodable : ∀ value ∈ values, value.Encodable platform world.registry) :
    world.registry.reach values ≤ 1 + history.length + values.length ∧
      (UInt64.size ≤ world.registry.reach values →
        ((packAll platform values).run world.state).1 =
          .error (.panic (.handlesExhausted (UInt64.size - 1)))) ∧
      (world.registry.reach values < UInt64.size →
        ∃ records sent, (packAll platform values).run world.state = (.ok records, sent) ∧
          ∀ between later, World.Run ⟨sent, world.held⟩ between later →
            (∀ record ∈ records, ∀ handle, record.Carries handle → .closed handle ∉ between) →
            ∀ answers, EchoesAll later.state.memory records answers →
              ∃ results final,
                (unpackAll answers).run later.state = (.ok (results.map some), final) ∧
                List.Forall₂ (Returned platform world.registry) values results ∧
                final.registry = later.registry) := by
  have sound := run.sound
  have counter : world.registry.next.number ≤ 1 + history.length := (run.moves .empty).next_le
  have bound := (world.registry.reach_le values).trans (Nat.add_le_add_right counter _)
  have owned : ∀ value ∈ values, ∀ object, value.object? = some object → object ∈ world.held :=
    permitted
  have moves : (world.state.custody world.held).Moves _
      (((packAll platform values).run world.state).2.custody world.held) :=
    packAll_moves sound owned
  rcases packAll_outcome sound owned encodable fun _ _ meant => meant with
    ⟨records, sent, ran, encoded, room⟩ | ⟨exhausted, short⟩
  · rw [ran] at moves
    refine ⟨bound, fun short => absurd room (Nat.not_lt.2 short), fun _ => ⟨records, sent, ran, ?_⟩⟩
    intro between later continued kept answers echo
    have soundSent := sound.moves moves
    have further := continued.moves soundSent
    have encodedLater : List.Forall₂ (Encoded platform world.registry later.registry)
        values records :=
      forall₂_imp_of_mem encoded fun value record member stands =>
        stands.later fun handle object carries resolved =>
          further.resolve?_stays soundSent resolved (kept record member handle carries)
    exact unpackAll_of_echo encodedLater echo
  · exact ⟨bound, fun _ => exhausted, fun room => absurd room (Nat.not_lt.2 short)⟩

namespace Sample

def values : List Value := [
  .bool true, .int (-7), .int32 (-2147483648), .int64 9223372036854775807, .float32 0x7fc00001,
  .float64 0x8000000000000000, .string "né€😀", .object World.secondObject,
  .object World.secondObject, .handle World.third]

def records : List Record := [
  .scalar .bool (.ofBool true), .scalar .int32 (.ofInt32 (-7)),
  .scalar .int32 (.ofInt32 (-2147483648)), .scalar .int64 (.ofInt64 9223372036854775807),
  .scalar .float32 (.ofFloat32 0x7fc00001), .scalar .float64 (.ofFloat64 0x8000000000000000),
  ⟨.string, .view "né€😀", 10⟩, .scalar .object (.ofAddress 3), .scalar .object (.ofAddress 3),
  .scalar .object (.ofAddress 3)]

def buffer : Address := 4096

def answer (record : Record) : NativeRecord :=
  match record.contents with
  | .view _ => ⟨record.tag.ordinal, .ofAddress buffer, record.length⟩
  | .payload payload =>
    ⟨(if record.tag = .object then Tag.ownedHandle else record.tag).ordinal, payload, record.length⟩

theorem echoes_answer {memory : Memory} {record : Record}
    (buffered : ∀ text, record.contents = .view text →
      record.tag = .string ∧ memory.Buffer buffer (Utf8.bytes text)) :
    Echoes memory record (answer record) := by
  obtain ⟨tag, contents, length⟩ := record
  cases contents with
  | view text =>
      obtain ⟨rfl, block⟩ := buffered text rfl
      exact .text text length buffer block
  | payload payload =>
      by_cases object : tag = .object
      · subst object
        exact .object payload length
      · simp only [answer, if_neg object]
        exact .scalar tag payload length object

def between : List Call := [
  .wrap World.secondObject,
  .native (Std.TreeMap.empty.insert buffer (Utf8.bytes "né€😀")),
  .release World.third,
  .unpack ⟨Tag.ownedHandle.ordinal, .ofAddress 3, 0⟩,
  .pack .wide (.object World.secondObject)]

def exchanges : List Exchange := [
  .shared World.secondObject World.third,
  .returned World.third,
  .shared World.secondObject World.third]

def works (world : World) : Bool :=
  match (packAll .narrow values).run world.state with
  | (.ok sent, after) =>
    match (World.mk after world.held).follow? between with
    | some (history, later) => decide (sent = records ∧ history = exchanges ∧
        later.state.memory.blocks.toList = [(buffer, Utf8.bytes "né€😀")] ∧
        World.secondObject ∈ world.held ∧
        world.registry.resolve? World.third = some World.secondObject ∧
        world.registry.reach values < UInt64.size)
    | none => false
  | _ => false

end Sample

theorem values_survive_after_reuse :
    ∃ world, World.initial.Run World.reuseHistory world ∧
      ∃ sent, (packAll .narrow Sample.values).run world.state = (.ok Sample.records, sent) ∧
        ∃ later, World.Run ⟨sent, world.held⟩ Sample.exchanges later ∧
          ∃ results final,
            (unpackAll (Sample.records.map Sample.answer)).run later.state =
              (.ok (results.map some), final) ∧
            List.Forall₂ (Returned .narrow world.registry) Sample.values results ∧
            final.registry = later.registry := by
  obtain ⟨world, run, checked⟩ : ∃ world, World.initial.Run World.reuseHistory world ∧
      Sample.works world = true :=
    World.exists_run World.addressReuse (by decide +kernel)
  unfold Sample.works at checked
  split at checked
  · rename_i sent after ran
    split at checked
    · rename_i history later followed
      obtain ⟨rfl, rfl, blocks, held, registered, room⟩ := of_decide_eq_true checked
      have permitted : world.Permits (.packAll .narrow Sample.values) := by
        simp [World.Permits, Sample.values, Value.object?, held]
      have short : (Utf8.bytes "né€😀").length ≤ greatestLength := by decide +kernel
      have encodable : ∀ value ∈ Sample.values, value.Encodable .narrow world.registry := by
        simp [Sample.values, Value.Encodable, registered, short]
      obtain ⟨_, _, survive⟩ := values_survive_round_trip run .narrow permitted encodable
      obtain ⟨sent, packed, ranAgain, decoded⟩ := survive room
      rw [ran] at ranAgain
      cases ranAgain
      have continued := World.follow?_run followed
      have block : later.state.memory.Buffer Sample.buffer (Utf8.bytes "né€😀") :=
        Memory.buffer_of_single blocks (by decide) (by decide)
      have echo : EchoesAll later.state.memory Sample.records
          (Sample.records.map Sample.answer) := {
        each := by
          rw [List.forall₂_map_right_iff, List.forall₂_same]
          intro record member
          apply Sample.echoes_answer
          revert record
          simp [Sample.records, Record.scalar, block]
        apart := by
          unfold NativeRecord.Apart
          decide +kernel }
      have kept : ∀ record ∈ Sample.records, ∀ handle, record.Carries handle →
          .closed handle ∉ Sample.exchanges := by
        simp [Sample.exchanges]
      obtain ⟨results, final, back⟩ := decoded _ later continued kept _ echo
      exact ⟨world, run, after, ran, later, continued, results, final, back⟩
    · cases checked
  · cases checked

/-- Once the numbers are used up, a batch that may be sent panics over its one new object. -/
theorem newcomer_not_sent_without_number :
    ∃ history world, World.initial.Run history world ∧
      world.Permits (.packAll .wide [.object Sample.latecomer]) ∧
      (∀ value ∈ [Value.object Sample.latecomer], value.Encodable .wide world.registry) ∧
      ((packAll .wide [.object Sample.latecomer]).run world.state).1 =
        .error (.panic (.handlesExhausted (UInt64.size - 1))) := by
  obtain ⟨history, world, _, run, _, exhausted, _, held, unregistered⟩ := Sample.exists_exhausted
  have permitted : world.Permits (.packAll .wide [.object Sample.latecomer]) := by
    simpa [World.Permits, Value.object?] using held
  have encodable : ∀ value ∈ [Value.object Sample.latecomer],
      value.Encodable .wide world.registry := by
    simp [Value.Encodable]
  have refused := (run_wrapObject_refused_iff run.sound held).2 ⟨unregistered, exhausted⟩
  refine ⟨history, world, run, permitted, encodable, ?_⟩
  rw [run_packAll_cons, run_pack]
  simp [encodeContents, refused]

end Boundary
