import Boundary.Proofs.Decoding.Outcome
import Mathlib.Data.List.TakeWhile

/-!
What decoding does to native memory. Main statement: over every run, the decoder releases the buffer
of each text that it decodes, once and in order, after its bytes were copied, and nothing else.
-/

namespace Boundary

theorem Memory.length_of_read? {memory : Memory} {address count : Nat} {bytes : List UInt8}
    (read : memory.read? address count = some bytes) : bytes.length = count := by
  unfold read? at read
  split at read
  · rename_i empty
    cases read
    exact empty.symm
  · obtain ⟨block, _, taken⟩ := Option.bind_eq_some_iff.1 read
    split at taken
    · rename_i enough
      cases taken
      exact List.length_take_of_le enough
    · cases taken

section Encoding

theorem wrapObject_keepsMemory (object : Object) : (wrapObject object).Keeps State.memory := by
  refine .bind (fun _ => rfl) fun state => ?_
  cases wrapped : state.registry.wrap? object with
  | none =>
    simp only [wrapped]
    exact fun _ => rfl
  | some outcome =>
      simp only [wrapped]
      refine .bind (fun _ => rfl) fun _ => .bind (fun _ => rfl) fun _ => ?_
      split <;> exact fun _ => rfl

theorem releaseHandle_keepsMemory (handle : Handle) :
    (releaseHandle handle).Keeps State.memory := by
  refine .bind (fun _ => rfl) fun state => ?_
  cases found : state.registry.entry? handle with
  | none =>
    simp only [found]
    exact .pure _
  | some entry =>
      simp only [found]
      split
      · exact fun _ => rfl
      · refine .bind (fun _ => rfl) fun _ => .bind (fun _ => rfl) fun _ => ?_
        split <;> exact fun _ => rfl

theorem resolveHandle_keepsMemory (handle : Handle) :
    (resolveHandle handle).Keeps State.memory := by
  intro state
  rw [run_resolveHandle]
  split <;> rfl

theorem encodeContents_keepsMemory (platform : Platform) (value : Value) :
    (encodeContents platform value).Keeps State.memory := by
  cases kind : value.object? with
  | none => exact fun state => by rw [encodeContents_of_plain platform kind]
  | some object =>
      obtain rfl := Value.eq_object_of_object? kind
      exact .bind (wrapObject_keepsMemory object) fun _ => .pure _

theorem pack_keepsMemory (platform : Platform) (value : Value) :
    (pack platform value).Keeps State.memory :=
  .bind (encodeContents_keepsMemory platform value) fun _ => .bind (fun _ => rfl) fun _ => .pure _

theorem packAll_keepsMemory (platform : Platform) (values : List Value) :
    (packAll platform values).Keeps State.memory := by
  induction values with
  | nil => exact .pure _
  | cons value rest ih =>
      exact .bind (pack_keepsMemory platform value) fun _ => .bind ih fun _ => .pure _

end Encoding

section Decoding

variable {record : NativeRecord} {state : State}

theorem unpack_memory_of_ok {value : Option Value} {after : State}
    (ran : (unpack record).run state = (.ok value, after)) :
    after.memory = state.memory.freeAll record.buffer?.toList := by
  obtain ⟨decodes, readable⟩ := unpack_ok_iff.1 ⟨value, by rw [ran]⟩
  obtain ⟨_, _, again, _, memory⟩ := run_unpack_of_decodes decodes readable
  rw [ran] at again
  cases again
  exact memory

theorem decodes_of_unpackAll {records : List NativeRecord} {values : List (Option Value)}
    {after : State} (ran : (unpackAll records).run state = (.ok values, after)) :
    (∀ record ∈ records, record.Decodes state.registry) ∧
      ReadableInTurn state.memory records := by
  induction records generalizing state values with
  | nil => exact ⟨by simp, trivial⟩
  | cons record rest ih =>
      obtain ⟨value, middle, others, outcome, remaining, rfl⟩ := unpackAll_cons_ok ran
      obtain ⟨decodes, readable⟩ := unpack_ok_iff.1 ⟨value, by rw [outcome]⟩
      obtain ⟨decodesRest, readableRest⟩ := ih remaining
      have registry := unpack_registry record state
      rw [outcome] at registry
      rw [registry] at decodesRest
      rw [unpack_memory_of_ok outcome] at readableRest
      exact ⟨List.forall_mem_cons.2 ⟨decodes, decodesRest⟩, readable, readableRest⟩

theorem unpackAll_memory_of_ok {records : List NativeRecord} {values : List (Option Value)}
    {after : State} (ran : (unpackAll records).run state = (.ok values, after)) :
    after.memory = state.memory.freeAll (buffers records) := by
  obtain ⟨decodes, readable⟩ := decodes_of_unpackAll ran
  obtain ⟨_, _, again, _, _, memory⟩ := run_unpackAll_of_decodes decodes readable
  rw [ran] at again
  cases again
  exact memory

theorem halt?_of_unpack_panic {cause : Panic} {after : State}
    (ran : (unpack record).run state = (.error (.panic cause), after)) :
    record.halt? state.registry = some (.panic cause) ∧ after.memory = state.memory := by
  have misstated : record.Misstated := unpack_panic_iff.1 ⟨cause, by rw [ran]⟩
  obtain ⟨other, stopped⟩ := (NativeRecord.misstated_iff state.registry).1 misstated
  obtain ⟨events, again⟩ := run_unpack_of_halt stopped
  rw [ran] at again
  cases again
  exact ⟨stopped, rfl⟩

theorem unpackAll_panic_split {records : List NativeRecord} {cause : Panic} {after : State}
    (ran : (unpackAll records).run state = (.error (.panic cause), after)) :
    ∃ before record rest, records = before ++ record :: rest ∧
      record.halt? state.registry = some (.panic cause) ∧
      after.memory = state.memory.freeAll (buffers before) := by
  induction records generalizing state after with
  | nil => cases ran
  | cons first others ih =>
      rcases unpackAll_cons_panic ran with outcome | ⟨value, middle, final, outcome, remaining, rfl⟩
      · obtain ⟨stopped, kept⟩ := halt?_of_unpack_panic outcome
        exact ⟨[], first, others, rfl, stopped, kept⟩
      · obtain ⟨before, record, rest, rfl, stopped, released⟩ := ih remaining
        have registry := unpack_registry first state
        rw [outcome] at registry
        rw [registry] at stopped
        refine ⟨first :: before, record, rest, rfl, stopped, ?_⟩
        rw [dropValue_memory, released, unpack_memory_of_ok outcome, buffers_cons,
          Memory.freeAll_append]

theorem misstated_of_unpackAll_panic {records : List NativeRecord} {cause : Panic} {after : State}
    (ran : (unpackAll records).run state = (.error (.panic cause), after)) :
    ∃ record ∈ records, record.Misstated := by
  obtain ⟨before, record, rest, rfl, stopped, _⟩ := unpackAll_panic_split ran
  exact ⟨record, by simp, (NativeRecord.misstated_iff _).2 ⟨cause, stopped⟩⟩

theorem text_of_unpack {value : Option Value} {after : State}
    (ran : (unpack record).run state = (.ok value, after)) (text : record.raw = 6) :
    ∃ bytes, state.memory.read? record.payload.toAddress record.length.toInt.toNat = some bytes ∧
      value = some (.string (String.ofList (Utf8.repair bytes))) := by
  obtain ⟨decodes, readable⟩ := unpack_ok_iff.1 ⟨value, by rw [ran]⟩
  obtain ⟨bytes, read⟩ := decodes.read text readable
  have again := run_unpack_of_text text decodes read
  rw [ran] at again
  cases again
  exact ⟨bytes, read, rfl⟩

theorem text_of_unpackAll {before rest : List NativeRecord} {values : List (Option Value)}
    {after : State}
    (ran : (unpackAll (before ++ record :: rest)).run state = (.ok values, after))
    (text : record.raw = 6) :
    ∃ bytes, (state.memory.freeAll (buffers before)).read? record.payload.toAddress
        record.length.toInt.toNat = some bytes ∧
      values[before.length]? = some (some (.string (String.ofList (Utf8.repair bytes)))) := by
  induction before generalizing state values with
  | nil =>
      obtain ⟨value, middle, others, outcome, _, rfl⟩ := unpackAll_cons_ok ran
      obtain ⟨bytes, read, rfl⟩ := text_of_unpack outcome text
      exact ⟨bytes, read, rfl⟩
  | cons first before ih =>
      obtain ⟨value, middle, others, outcome, remaining, rfl⟩ := unpackAll_cons_ok ran
      obtain ⟨bytes, read, decoded⟩ := ih remaining
      rw [unpack_memory_of_ok outcome, ← Memory.freeAll_append, ← buffers_cons] at read
      exact ⟨bytes, read, decoded⟩

/-- The records of a batch before the first one that is not decoded. -/
def decoded (registry : Registry) (records : List NativeRecord) : List NativeRecord :=
  records.takeWhile fun record => record.Decodes registry

theorem decodes_of_decoded {registry : Registry} {records : List NativeRecord}
    (member : record ∈ decoded registry records) : record.Decodes registry :=
  of_decide_eq_true
    (List.mem_takeWhile_imp (p := fun other : NativeRecord => decide (other.Decodes registry)) member)

/-- However a batch ends, it released the buffers of the records that it decoded, and no others. -/
theorem unpackAll_memory {records : List NativeRecord}
    (readable : ReadableInTurn state.memory (decoded state.registry records)) :
    ((unpackAll records).run state).2.memory =
      state.memory.freeAll (buffers (decoded state.registry records)) := by
  have whole : decoded state.registry records ++
      records.dropWhile (fun record => record.Decodes state.registry) = records :=
    List.takeWhile_append_dropWhile
  have decodes : ∀ record ∈ decoded state.registry records, record.Decodes state.registry :=
    fun _ member => decodes_of_decoded member
  -- Either nothing remains, or the first record that remains stops the batch.
  cases remaining : records.dropWhile fun record => record.Decodes state.registry with
  | nil =>
      obtain ⟨values, after, ran, _, _, memory⟩ := run_unpackAll_of_decodes decodes readable
      rw [remaining, List.append_nil] at whole
      rw [← memory, ← whole, ran]
  | cons record rest =>
      have first := List.head?_dropWhile_not (fun record => decide (record.Decodes state.registry))
        records
      rw [remaining] at first
      obtain ⟨halt, stopped⟩ := NativeRecord.exists_halt (of_decide_eq_false first)
      obtain ⟨after, ran, _, memory, _⟩ := run_unpackAll_of_halt decodes readable stopped rest
      rw [← remaining, whole] at ran
      rw [ran, memory]

theorem unpack_memory (readable : record.Readable state.memory) :
    ((unpack record).run state).2.memory =
      state.memory.freeAll (buffers (decoded state.registry [record])) := by
  by_cases decodes : record.Decodes state.registry
  · have alone : decoded state.registry [record] = [record] := by simp [decoded, decodes]
    obtain ⟨value, after, ran, _, memory⟩ := run_unpack_of_decodes decodes readable
    rw [ran, memory, alone, buffers_singleton]
  · have none : decoded state.registry [record] = [] := by simp [decoded, decodes]
    obtain ⟨halt, stopped⟩ := NativeRecord.exists_halt decodes
    obtain ⟨events, ran⟩ := run_unpack_of_halt stopped
    rw [ran, none]
    rfl

theorem unpack_keepsMemory (plain : record.raw ≠ 6) : (unpack record).Keeps State.memory := by
  intro state
  have bare : record.buffer? = none := if_neg plain
  have none : buffers (decoded state.registry [record]) = [] := by
    by_cases decodes : record.Decodes state.registry <;>
      simp [decoded, decodes, buffers_singleton, bare]
  rw [unpack_memory fun text => absurd text plain, none]
  rfl

end Decoding

def Call.records : Call → List NativeRecord
  | .unpack record => [record]
  | .unpackAll records => records
  | .create _ _ | .copy _ | .drop _ | .wrap _ | .release _ | .resolve _ | .pack _ _
  | .packAll _ _ | .native _ => []

namespace World

section After

variable {result : Type} {world after : World} {action : Action result}
  {received : result → Multiset Object}

theorem state_of_after? (performed : world.after? action received = some after) :
    after.state = (action.run world.state).2 := by
  unfold after? at performed
  split at performed
  · rename_i ran
    cases performed
    rw [ran]
  · rename_i ran
    cases performed
    rw [ran]
  · cases performed

theorem freed_of_keeps (keeps : action.Keeps State.memory)
    (performed : world.after? action received = some after) :
    after.state.memory.freed = world.state.memory.freed ++ buffers [] := by
  have kept : (action.run world.state).2.memory = world.state.memory := keeps world.state
  rw [state_of_after? performed, kept, buffers_nil, List.append_nil]

end After

theorem perform?_freed {world after : World} {call : Call}
    (performed : world.perform? call = some after)
    (stated : ∀ record ∈ call.records, ¬ record.Misstated) :
    after.state.memory.freed = world.state.memory.freed ++ buffers call.records := by
  cases call with
  | create content address | copy object | drop object | native blocks =>
      cases performed
      exact (List.append_nil _).symm
  | wrap object => exact freed_of_keeps (wrapObject_keepsMemory object) performed
  | release handle => exact freed_of_keeps (releaseHandle_keepsMemory handle) performed
  | resolve handle => exact freed_of_keeps (resolveHandle_keepsMemory handle) performed
  | pack platform value => exact freed_of_keeps (pack_keepsMemory platform value) performed
  | packAll platform values => exact freed_of_keeps (packAll_keepsMemory platform values) performed
  | unpack record =>
      simp only [perform?, after?] at performed
      split at performed
      · rename_i ran
        cases performed
        rw [unpack_memory_of_ok ran, Memory.freed_freeAll, Call.records, buffers_singleton]
      · rename_i cause _ ran
        exact absurd (unpack_panic_iff.1 ⟨cause, by rw [ran]⟩) (stated record List.mem_cons_self)
      · cases performed
  | unpackAll records =>
      simp only [perform?, after?] at performed
      split at performed
      · rename_i ran
        cases performed
        rw [unpackAll_memory_of_ok ran, Memory.freed_freeAll]
        rfl
      · rename_i ran
        obtain ⟨record, member, misstated⟩ := misstated_of_unpackAll_panic ran
        exact absurd misstated (stated record member)
      · cases performed

theorem follow?_freed {start world : World} {calls : List Call} {history : List Exchange}
    (followed : start.follow? calls = some (history, world))
    (stated : ∀ record ∈ calls.flatMap Call.records, ¬ record.Misstated) :
    world.state.memory.freed =
      start.state.memory.freed ++ buffers (calls.flatMap Call.records) := by
  induction calls generalizing start history with
  | nil =>
      cases followed
      exact (List.append_nil _).symm
  | cons call rest ih =>
      rw [follow?] at followed
      split at followed
      · split at followed
        · cases followed
        · rename_i middle performed
          obtain ⟨⟨later, last⟩, remaining, same⟩ := Option.map_eq_some_iff.1 followed
          cases same
          rw [List.flatMap_cons] at stated ⊢
          have first := perform?_freed performed fun record member =>
            stated record (List.mem_append_left _ member)
          have others := ih remaining fun record member =>
            stated record (List.mem_append_right _ member)
          rw [others, first, buffers_append, List.append_assoc]
      · cases followed

end World

/-- In every run of calls that hand in texts of stated lengths, the decoder releases the buffers of the
texts, each once and in decoding order, and a last call, however it ends, adds those that it decodes.
Encoding and records of other tags release nothing. Every text is made of all the bytes that its buffer
held before, and a zero byte in them ends nothing. -/
theorem texts_released_exactly_once {calls : List Call} {history : List Exchange} {world : World}
    (followed : World.initial.follow? calls = some (history, world))
    (stated : ∀ record ∈ calls.flatMap Call.records, ¬ record.Misstated) :
    world.state.memory.freed = buffers (calls.flatMap Call.records) ∧
      (∀ record, record.Readable world.state.memory →
        ((unpack record).run world.state).2.memory.freed =
          buffers (calls.flatMap Call.records ++ decoded world.registry [record])) ∧
      (∀ records, ReadableInTurn world.state.memory (decoded world.registry records) →
        ((unpackAll records).run world.state).2.memory.freed =
          buffers (calls.flatMap Call.records ++ decoded world.registry records)) ∧
      (∀ platform value,
        ((pack platform value).run world.state).2.memory = world.state.memory) ∧
      (∀ platform values,
        ((packAll platform values).run world.state).2.memory = world.state.memory) ∧
      (∀ record : NativeRecord, record.raw ≠ 6 →
        ((unpack record).run world.state).2.memory = world.state.memory) ∧
      (∀ record value after, (unpack record).run world.state = (.ok value, after) →
        record.raw = 6 → ∃ bytes,
          world.state.memory.read? record.payload.toAddress record.length.toInt.toNat =
            some bytes ∧ bytes.length = record.length.toInt.toNat ∧
          value = some (.string (String.ofList (Utf8.repair bytes)))) ∧
      (∀ before record rest values after,
        (unpackAll (before ++ record :: rest)).run world.state = (.ok values, after) →
        record.raw = 6 → ∃ bytes,
          (world.state.memory.freeAll (buffers before)).read? record.payload.toAddress
            record.length.toInt.toNat = some bytes ∧ bytes.length = record.length.toInt.toNat ∧
          values[before.length]? = some (some (.string (String.ofList (Utf8.repair bytes))))) ∧
      ∀ before after, Utf8.repair (before ++ 0 :: after) =
        Utf8.repair before ++ '\x00' :: Utf8.repair after := by
  have released : world.state.memory.freed = buffers (calls.flatMap Call.records) :=
    World.follow?_freed followed stated
  refine ⟨released, ?_, ?_, fun platform value => pack_keepsMemory platform value _,
    fun platform values => packAll_keepsMemory platform values _,
    fun record plain => unpack_keepsMemory plain _, ?_, ?_, Utf8.repair_append_zero⟩
  · intro record readable
    rw [unpack_memory readable, Memory.freed_freeAll, released, buffers_append]
  · intro records readable
    rw [unpackAll_memory readable, Memory.freed_freeAll, released, buffers_append]
  · intro record value after ran text
    obtain ⟨bytes, read, same⟩ := text_of_unpack ran text
    exact ⟨bytes, read, Memory.length_of_read? read, same⟩
  · intro before record rest values after ran text
    obtain ⟨bytes, read, same⟩ := text_of_unpackAll ran text
    exact ⟨bytes, read, Memory.length_of_read? read, same⟩

namespace Sample

def twoTexts : Std.TreeMap Address (List UInt8) :=
  (Std.TreeMap.empty.insert 4096 [0x61, 0x00, 0x62]).insert 8192 [0xc3, 0xa9]

def laterText : Std.TreeMap Address (List UInt8) := Std.TreeMap.empty.insert 4096 [0xff, 0x00]

def zeroInside : NativeRecord := ⟨6, .ofAddress 4096, 3⟩

def accented : NativeRecord := ⟨6, .ofAddress 8192, 2⟩

def emptyAtNull : NativeRecord := ⟨6, .zero, 0⟩

def malformed : NativeRecord := ⟨6, .ofAddress 4096, 2⟩

def outdated : NativeRecord := ⟨9, .ofAddress 1, 0⟩

def traffic : List Call := [
  .create World.firstObject.content 16,
  .native twoTexts,
  .packAll .wide [.string "out", .object World.firstObject],
  .unpackAll [zeroInside, .invalid, outdated, accented],
  .pack .wide (.string "more"),
  .unpack emptyAtNull,
  .release .first,
  .native laterText]

end Sample

theorem texts_released_before_abort :
    ∃ history world, World.initial.follow? Sample.traffic = some (history, world) ∧
      (∀ record ∈ Sample.traffic.flatMap Call.records, ¬ record.Misstated) ∧
      world.state.memory.freed = [4096, 8192, 0] ∧
      ((unpackAll [Sample.malformed, Sample.outdated, Sample.emptyAtNull]).run
        world.state).2.memory.freed = [4096, 8192, 0, 4096] := by
  have checked : (World.initial.follow? Sample.traffic).any (fun result =>
      decide (result.2.state.memory.read? 4096 2 = some [0xff, 0x00] ∧
        decoded result.2.registry [Sample.malformed, Sample.outdated, Sample.emptyAtNull] =
          [Sample.malformed])) = true := by decide +kernel
  obtain ⟨⟨history, world⟩, followed, holds⟩ := (Option.any_eq_true _ _).1 checked
  obtain ⟨read, reached⟩ := of_decide_eq_true holds
  have stated : ∀ record ∈ Sample.traffic.flatMap Call.records, ¬ record.Misstated := by
    decide +kernel
  obtain ⟨released, _, batch, _⟩ := texts_released_exactly_once followed stated
  refine ⟨history, world, followed, stated, released, ?_⟩
  rw [batch, reached]
  · rfl
  · rw [reached]
    exact ⟨fun _ _ _ => ⟨_, read⟩, trivial⟩

end Boundary
