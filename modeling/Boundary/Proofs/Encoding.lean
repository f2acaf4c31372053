import Boundary.Proofs.Handles.Identity
import Mathlib.Data.Finset.Card
import Mathlib.Data.Finset.Dedup
import Mathlib.Data.List.Forall2

/-!
What the records of an encoded batch hold. An object is encoded as a handle that resolves to it, and
stays so for the rest of the batch. Main statement: a batch is encoded as a whole, unless the counter
cannot number all of its new objects.
-/

namespace Boundary

theorem forall₂_imp_of_mem {first second : Type} {before after : first → second → Prop}
    {left : List first} {right : List second} (each : List.Forall₂ before left right)
    (imp : ∀ value, ∀ other ∈ right, before value other → after value other) :
    List.Forall₂ after left right := by
  induction each with
  | nil => exact .nil
  | cons head _ ih =>
      exact .cons (imp _ _ List.mem_cons_self head)
        (ih fun value other member => imp value other (List.mem_cons_of_mem _ member))

/-- What a caller must see to: integers of the platform's width, texts whose length a record can
state, and handles in use. -/
def Value.Encodable (platform : Platform) (registry : Registry) : Value → Prop
  | .int value => platform = .narrow → -0x80000000 ≤ value.toInt ∧ value.toInt < 0x80000000
  | .string text => (Utf8.bytes text).length ≤ greatestLength
  | .handle passed => ∃ object, registry.resolve? passed = some object
  | .bool _ | .int32 _ | .int64 _ | .float32 _ | .float64 _ | .object _ => True

def Record.Carries (record : Record) (handle : Handle) : Prop :=
  record = .scalar .object (.ofAddress handle.number)

/-- What a record says of a value. A handle meant an object when it was passed, under `earlier`, and a
record refers to an object as long as its handle resolves, under `registry`. -/
inductive Encoded (platform : Platform) (earlier registry : Registry) : Value → Record → Prop
  | bool (value : Bool) : Encoded platform earlier registry (.bool value) (.scalar .bool (.ofBool value))
  | wide (value : Int64) (width : platform.integerTag = .int64) :
      Encoded platform earlier registry (.int value) (.scalar .int64 (.ofInt64 value))
  | narrow (value : Int64) (short : Int32) (width : platform.integerTag = .int32)
      (same : short.toInt = value.toInt) :
      Encoded platform earlier registry (.int value) (.scalar .int32 (.ofInt32 short))
  | int32 (value : Int32) :
      Encoded platform earlier registry (.int32 value) (.scalar .int32 (.ofInt32 value))
  | int64 (value : Int64) :
      Encoded platform earlier registry (.int64 value) (.scalar .int64 (.ofInt64 value))
  | float32 (bits : UInt32) :
      Encoded platform earlier registry (.float32 bits) (.scalar .float32 (.ofFloat32 bits))
  | float64 (bits : UInt64) :
      Encoded platform earlier registry (.float64 bits) (.scalar .float64 (.ofFloat64 bits))
  | string (text : String) (short : (Utf8.bytes text).length ≤ greatestLength) :
      Encoded platform earlier registry (.string text)
        ⟨.string, .view text, Int32.ofNat (Utf8.bytes text).length⟩
  | object (object : Object) (handle : Handle) (resolved : registry.resolve? handle = some object) :
      Encoded platform earlier registry (.object object)
        (.scalar .object (.ofAddress handle.number))
  | handle (handle : Handle) (object : Object) (meant : earlier.resolve? handle = some object)
      (resolved : registry.resolve? handle = some object) :
      Encoded platform earlier registry (.handle handle) (.scalar .object (.ofAddress handle.number))

theorem Encoded.later {platform : Platform} {earlier registry after : Registry} {value : Value}
    {record : Record} (encoded : Encoded platform earlier registry value record)
    (stays : ∀ handle object, record.Carries handle → registry.resolve? handle = some object →
      after.resolve? handle = some object) : Encoded platform earlier after value record := by
  cases encoded with
  | object object handle resolved => exact .object object handle (stays handle object rfl resolved)
  | handle handle object meant resolved =>
      exact .handle handle object meant (stays handle object rfl resolved)
  | bool value => exact .bool value
  | wide value width => exact .wide value width
  | narrow value short width same => exact .narrow value short width same
  | int32 value => exact .int32 value
  | int64 value => exact .int64 value
  | float32 bits => exact .float32 bits
  | float64 bits => exact .float64 bits
  | string text short => exact .string text short

def Registry.unregistered (registry : Registry) (values : List Value) : Finset Object :=
  (values.filterMap Value.object?).toFinset.filter fun object => registry.holds object = false

/-- Where the counter stands once a batch is encoded. -/
def Registry.reach (registry : Registry) (values : List Value) : Nat :=
  registry.next.number + (registry.unregistered values).card

namespace Registry

theorem reach_le (registry : Registry) (values : List Value) :
    registry.reach values ≤ registry.next.number + values.length := by
  have fewer := Finset.card_filter_le (values.filterMap Value.object?).toFinset
    fun object => registry.holds object = false
  have distinct := List.toFinset_card_le (values.filterMap Value.object?)
  have objects := List.length_filterMap_le Value.object? values
  exact Nat.add_le_add_left (fewer.trans (distinct.trans objects)) _

theorem reach_cons_of_plain (registry : Registry) {value : Value} (plain : value.object? = none)
    (rest : List Value) : registry.reach (value :: rest) = registry.reach rest := by
  simp [reach, unregistered, plain]

variable {registry : Registry} {object : Object}

theorem reach_cons_of_known {handle : Handle} {entry other : Entry} (consistent : registry.Consistent)
    (holds : registry.holds object = true) (found : registry.entry? handle = some entry)
    (same : other.object = entry.object) (counted : 0 < other.count) (rest : List Value) :
    (registry.withEntry handle other).reach rest = registry.reach (.object object :: rest) := by
  have kept : (registry.withEntry handle other).unregistered rest = registry.unregistered rest := by
    simp only [unregistered, consistent.holds_withEntry found same counted]
  have passed : registry.unregistered (.object object :: rest) = registry.unregistered rest := by
    simp [unregistered, Value.object?, Finset.filter_insert, holds]
  have next : (registry.withEntry handle other).next = registry.next := rfl
  rw [reach, reach, kept, passed, next]

theorem reach_cons_of_unknown {next : Handle} (consistent : registry.Consistent)
    (unknown : registry.registration? object = none)
    (successor : registry.next.next? = some next) (rest : List Value) :
    (registry.register object next).reach rest = registry.reach (.object object :: rest) := by
  have fresh := (consistent.registration?_eq_none_iff object).1 unknown
  have missing := holds_of_unknown unknown
  have fewer : (registry.register object next).unregistered rest =
      (registry.unregistered rest).erase object := by
    ext other
    simp only [unregistered, Finset.mem_filter, Finset.mem_erase,
      consistent.holds_register fresh successor, Bool.or_eq_false_iff, decide_eq_false_iff_not]
    exact and_left_comm
  have more : registry.unregistered (.object object :: rest) =
      insert object ((registry.unregistered rest).erase object) := by
    ext other
    by_cases same : other = object
    · subst same
      simp [unregistered, Value.object?, missing]
    · simp [unregistered, Value.object?, same]
  have counted : (registry.register object next).next.number = registry.next.number + 1 :=
    Handle.number_of_next? successor
  rw [reach, reach, fewer, more, Finset.card_insert_of_notMem (Finset.notMem_erase _ _), counted]
  omega

end Registry

section Outcome

variable {platform : Platform} {earlier : Registry} {state : State}

theorem toInt_toInt32_of_fits {value : Int64} (low : -0x80000000 ≤ value.toInt)
    (high : value.toInt < 0x80000000) : value.toInt32.toInt = value.toInt := by
  rw [Int64.toInt_toInt32]
  exact Int.bmod_eq_of_le (by omega) (by omega)

theorem fits_iff (value : Int64) : value.toInt32.toInt64 = value ↔
    -0x80000000 ≤ value.toInt ∧ value.toInt < 0x80000000 := by
  constructor
  · intro same
    rw [← same, Int32.toInt_toInt64]
    exact ⟨value.toInt32.le_toInt, value.toInt32.toInt_lt⟩
  · rintro ⟨low, high⟩
    rw [← Int64.toInt_inj, Int32.toInt_toInt64, toInt_toInt32_of_fits low high]

theorem encodeContents_of_encodable {value : Value} (plain : value.object? = none)
    (encodable : value.Encodable platform earlier)
    (alive : ∀ handle object, earlier.resolve? handle = some object →
      state.registry.resolve? handle = some object) :
    ∃ record, (encodeContents platform value).run state = (.ok record, state) ∧
      Encoded platform earlier state.registry value record := by
  cases value with
  | object object => cases plain
  | int value =>
      cases platform with
      | wide => exact ⟨_, rfl, .wide value rfl⟩
      | narrow =>
          obtain ⟨low, high⟩ := encodable rfl
          have same := toInt_toInt32_of_fits low high
          have fits := (fits_iff value).2 ⟨low, high⟩
          refine ⟨_, ?_, .narrow value value.toInt32 rfl same⟩
          rw [encodeContents, encodePlatformInteger, if_pos fits]
          rfl
  | string text =>
      have short : (Utf8.bytes text).length ≤ greatestLength := encodable
      refine ⟨_, ?_, .string text short⟩
      rw [encodeContents, checkedLength, if_pos short]
      rfl
  | handle handle =>
      obtain ⟨object, meant⟩ := encodable
      exact ⟨_, rfl, .handle handle object meant (alive handle object meant)⟩
  | bool value => exact ⟨_, rfl, .bool value⟩
  | int32 value => exact ⟨_, rfl, .int32 value⟩
  | int64 value => exact ⟨_, rfl, .int64 value⟩
  | float32 bits => exact ⟨_, rfl, .float32 bits⟩
  | float64 bits => exact ⟨_, rfl, .float64 bits⟩

theorem wrapObject_outcome {held : Multiset Object} (sound : (state.custody held).Sound)
    {object : Object} (owned : object ∈ held) (rest : List Value) :
    (∃ handle after, (wrapObject object).run state = (.ok handle, after) ∧
        after.registry.resolve? handle = some object ∧
        after.registry.reach rest = state.registry.reach (.object object :: rest)) ∨
      ((wrapObject object).run state).1 =
          .error (.panic (.handlesExhausted (UInt64.size - 1))) ∧
        UInt64.size ≤ state.registry.reach (.object object :: rest) := by
  have consistent : state.registry.Consistent := sound.registry
  cases known : state.registry.registration? object with
  | some registration =>
      obtain ⟨handle, entry⟩ := registration
      have ran := run_wrapObject_of_known known
      have resolved := wrapObject_resolves sound owned ran
      have found := Registry.entry?_of_registration? known
      have same := sound.object_of_registration? (sound.live_of_held owned) known
      have holds : state.registry.holds object = true := by
        rw [Registry.holds, known]
        exact decide_eq_true same
      have kept : entry.raise.object = entry.object := rfl
      have reach := Registry.reach_cons_of_known consistent holds found kept
        (Entry.raise_count_pos entry) rest
      exact Or.inl ⟨handle, _, ran, resolved, reach⟩
  | none =>
      cases successor : state.registry.next.next? with
      | none =>
          have last := Handle.number_of_exhausted successor
          have wanted : object ∈ state.registry.unregistered (.object object :: rest) := by
            simp [Registry.unregistered, Value.object?, Registry.holds_of_unknown known]
          have positive := Finset.card_pos.2 ⟨object, wanted⟩
          refine Or.inr ⟨?_, ?_⟩
          · rw [run_wrapObject_of_exhausted known successor, last]
          · rw [Registry.reach, last]
            omega
      | some next =>
          have ran := run_wrapObject_of_unknown known consistent.resolve?_next successor
          have resolved := wrapObject_resolves sound owned ran
          have reach := Registry.reach_cons_of_unknown consistent known successor rest
          exact Or.inl ⟨_, _, ran, resolved, reach⟩

theorem pack_outcome {held : Multiset Object} (sound : (state.custody held).Sound) {value : Value}
    (owned : ∀ object, value.object? = some object → object ∈ held)
    (encodable : value.Encodable platform earlier)
    (alive : ∀ handle object, earlier.resolve? handle = some object →
      state.registry.resolve? handle = some object) (rest : List Value) :
    (∃ record after, (pack platform value).run state = (.ok record, after) ∧
        Encoded platform earlier after.registry value record ∧
        after.registry.reach rest = state.registry.reach (value :: rest)) ∨
      ((pack platform value).run state).1 =
          .error (.panic (.handlesExhausted (UInt64.size - 1))) ∧
        UInt64.size ≤ state.registry.reach (value :: rest) := by
  cases kind : value.object? with
  | none =>
      obtain ⟨record, ran, encoded⟩ := encodeContents_of_encodable kind encodable alive
      rw [run_pack, ran]
      exact Or.inl ⟨record, _, rfl, encoded, (state.registry.reach_cons_of_plain kind rest).symm⟩
  | some object =>
      obtain rfl := Value.eq_object_of_object? kind
      rw [run_pack, run_encodeContents_object]
      rcases wrapObject_outcome sound (owned object rfl) rest with
        ⟨handle, after, ran, resolved, reach⟩ | ⟨exhausted, short⟩
      · rw [ran]
        exact Or.inl ⟨_, _, rfl, .object object handle resolved, reach⟩
      · rcases ran : (wrapObject object).run state with ⟨outcome, after⟩
        rw [ran] at exhausted
        cases exhausted
        exact Or.inr ⟨rfl, short⟩

theorem closed_notMem_exchanges (value : Value) (state : State) (handle : Handle) :
    .closed handle ∉ value.exchanges state := by
  cases value with
  | object object =>
      rw [Value.exchanges, wrapExchanges]
      split
      · rw [Exchange.ofWrap]
        split <;> simp
      · exact List.not_mem_nil
  | _ => exact List.not_mem_nil

theorem closed_notMem_batchExchanges (values : List Value) (state : State) (handle : Handle) :
    .closed handle ∉ batchExchanges platform values state := by
  induction values generalizing state with
  | nil => exact List.not_mem_nil
  | cons value rest ih =>
      rw [batchExchanges, List.mem_append, not_or]
      refine ⟨closed_notMem_exchanges value state handle, ?_⟩
      split
      · exact ih _
      · exact List.not_mem_nil

/-- A batch is encoded as a whole, or the counter cannot number its new objects. -/
theorem packAll_outcome {held : Multiset Object} (sound : (state.custody held).Sound)
    {values : List Value}
    (owned : ∀ value ∈ values, ∀ object, value.object? = some object → object ∈ held)
    (encodable : ∀ value ∈ values, value.Encodable platform earlier)
    (alive : ∀ handle object, earlier.resolve? handle = some object →
      state.registry.resolve? handle = some object) :
    (∃ records after, (packAll platform values).run state = (.ok records, after) ∧
        List.Forall₂ (Encoded platform earlier after.registry) values records ∧
        state.registry.reach values < UInt64.size) ∨
      ((packAll platform values).run state).1 =
          .error (.panic (.handlesExhausted (UInt64.size - 1))) ∧
        UInt64.size ≤ state.registry.reach values := by
  -- Encoding a value leaves what the counter will reach as it was, and ends no handle.
  induction values generalizing state with
  | nil => exact Or.inl ⟨[], state, rfl, .nil, state.registry.next.inRange⟩
  | cons value rest ih =>
      have first : (state.custody held).Moves _ (((pack platform value).run state).2.custody held) :=
        pack_moves sound (owned value List.mem_cons_self)
      rw [run_packAll_cons]
      rcases pack_outcome sound (owned value List.mem_cons_self)
          (encodable value List.mem_cons_self) alive rest with
        ⟨record, after, ran, encoded, reach⟩ | ⟨exhausted, short⟩
      · rw [ran] at first ⊢
        have aliveAfter (handle : Handle) (object : Object)
            (meant : earlier.resolve? handle = some object) :
            after.registry.resolve? handle = some object :=
          first.resolve?_stays sound (alive handle object meant)
            (closed_notMem_exchanges value state handle)
        have soundAfter := sound.moves first
        have ownedRest : ∀ other ∈ rest, ∀ object, other.object? = some object → object ∈ held :=
          fun other member => owned other (List.mem_cons_of_mem _ member)
        have later : (after.custody held).Moves _
            (((packAll platform rest).run after).2.custody held) :=
          packAll_moves soundAfter ownedRest
        rcases ih soundAfter ownedRest
            (fun other member => encodable other (List.mem_cons_of_mem _ member)) aliveAfter with
          ⟨records, final, ranRest, encodedRest, room⟩ | ⟨exhausted, short⟩
        · rw [ranRest] at later
          have stays := encoded.later fun handle object _ resolved =>
            later.resolve?_stays soundAfter resolved (closed_notMem_batchExchanges rest after handle)
          simp only [ranRest]
          exact Or.inl ⟨_, _, rfl, .cons stays encodedRest, reach ▸ room⟩
        · rcases ranRest : (packAll platform rest).run after with ⟨outcome, final⟩
          rw [ranRest] at exhausted
          cases exhausted
          simp only [ranRest]
          exact Or.inr ⟨trivial, reach ▸ short⟩
      · rcases ran : (pack platform value).run state with ⟨outcome, after⟩
        rw [ran] at exhausted
        cases exhausted
        exact Or.inr ⟨rfl, short⟩

end Outcome

end Boundary
