import Boundary.Decoding
import Boundary.Encoding
import Boundary.Proofs.Ownership
import Boundary.Proofs.Payload

/-!
What encoding and decoding do to custody. Encoding hands out a handle for each object and touches
nothing else; decoding leaves the registry alone and takes a reference for each object it returns.
A batch does what its values do one after the other, up to the first that fails.
-/

namespace Boundary

theorem Value.eq_object_of_object? {value : Value} {target : Object}
    (found : value.object? = some target) : value = .object target := by
  cases value <;> cases found
  rfl

def Value.exchanges : Value → State → List Exchange
  | .object target, state => wrapExchanges target state
  | _, _ => []

/-- What encoding a batch exchanges, value by value, until one of them fails. -/
def batchExchanges (platform : Platform) : List Value → State → List Exchange
  | [], _ => []
  | value :: rest, state =>
    value.exchanges state ++
      match (pack platform value).run state with
      | (.ok _, after) => batchExchanges platform rest after
      | _ => []

def referencesIn (values : List (Option Value)) : Multiset Object :=
  ↑(values.filterMap fun value => value.bind Value.object?)

@[simp] theorem referencesIn_nil : referencesIn [] = 0 := rfl

theorem referencesIn_cons (value : Option Value) (rest : List (Option Value)) :
    referencesIn (value :: rest) = ↑(value.bind Value.object?).toList + referencesIn rest := by
  unfold referencesIn
  cases found : value.bind Value.object? <;> simp [found]

section Encoding

variable (platform : Platform)

theorem run_pack (value : Value) (state : State) :
    (pack platform value).run state =
      match (encodeContents platform value).run state with
      | (.ok record, after) =>
        (.ok record, { after with events := after.events ++ [.packed value.kind record.tag] })
      | (.error halt, after) => (.error halt, after) := by
  rcases outcome : (encodeContents platform value).run state with ⟨_ | _, _⟩ <;>
    simp [pack, outcome]

theorem run_packAll_cons (value : Value) (rest : List Value) (state : State) :
    (packAll platform (value :: rest)).run state =
      match (pack platform value).run state with
      | (.ok record, after) =>
        match (packAll platform rest).run after with
        | (.ok records, final) => (.ok (record :: records), final)
        | (.error halt, final) => (.error halt, final)
      | (.error halt, after) => (.error halt, after) := by
  rcases outcome : (pack platform value).run state with ⟨_ | _, after⟩
  · simp [packAll, outcome]
  · rcases remaining : (packAll platform rest).run after with ⟨_ | _, _⟩ <;>
      simp [packAll, outcome, remaining]

theorem run_encodeContents_object (object : Object) (state : State) :
    (encodeContents platform (.object object)).run state =
      match (wrapObject object).run state with
      | (.ok handle, after) => (.ok (.scalar .object (.ofAddress handle.number)), after)
      | (.error halt, after) => (.error halt, after) := by
  rcases outcome : (wrapObject object).run state with ⟨_ | _, _⟩ <;>
    simp [encodeContents, outcome]

theorem encodeContents_of_plain {value : Value} (plain : value.object? = none) (state : State) :
    ((encodeContents platform value).run state).2 = state := by
  cases value with
  | object object => cases plain
  | int value =>
      cases platform with
      | wide => rfl
      | narrow =>
          simp only [encodeContents, encodePlatformInteger]
          split <;> rfl
  | string text =>
      simp only [encodeContents, checkedLength]
      split <;> rfl
  | _ => rfl

variable {platform}

theorem pack_custody (value : Value) (state : State) (held : Multiset Object) :
    ((pack platform value).run state).2.custody held =
      ((encodeContents platform value).run state).2.custody held := by
  rw [run_pack]
  split <;> simp_all [State.custody]

theorem pack_custody_of_plain {value : Value} (plain : value.object? = none) (state : State)
    (held : Multiset Object) :
    ((pack platform value).run state).2.custody held = state.custody held := by
  rw [pack_custody, encodeContents_of_plain platform plain]

theorem pack_custody_of_object (object : Object) (state : State) (held : Multiset Object) :
    ((pack platform (.object object)).run state).2.custody held =
      ((wrapObject object).run state).2.custody held := by
  rw [pack_custody, run_encodeContents_object]
  split <;> simp_all

theorem pack_moves {value : Value} {state : State} {held : Multiset Object}
    (sound : (state.custody held).Sound)
    (owned : ∀ object, value.object? = some object → object ∈ held) :
    (state.custody held).Moves (value.exchanges state)
      (((pack platform value).run state).2.custody held) := by
  cases kind : value.object? with
  | none =>
      have exchanged : value.exchanges state = [] := by
        cases value with
        | object object => cases kind
        | _ => rfl
      rw [exchanged, pack_custody_of_plain kind]
      exact .refl
  | some object =>
      obtain rfl := Value.eq_object_of_object? kind
      rw [pack_custody_of_object]
      exact wrapObject_moves sound (owned object rfl)

theorem packAll_moves {values : List Value} {state : State} {held : Multiset Object}
    (sound : (state.custody held).Sound)
    (owned : ∀ value ∈ values, ∀ object, value.object? = some object → object ∈ held) :
    (state.custody held).Moves (batchExchanges platform values state)
      (((packAll platform values).run state).2.custody held) := by
  induction values generalizing state with
  | nil => exact .refl
  | cons value rest ih =>
      have first : (state.custody held).Moves _ (((pack platform value).run state).2.custody held) :=
        pack_moves sound (owned value List.mem_cons_self)
      rw [batchExchanges, run_packAll_cons]
      rcases outcome : (pack platform value).run state with ⟨halt | record, after⟩
      · rw [outcome] at first
        simpa using first
      · rw [outcome] at first
        have later := ih (sound.moves first) fun other member =>
          owned other (List.mem_cons_of_mem _ member)
        have both := first.trans later
        rcases remaining : (packAll platform rest).run after with ⟨halt | records, final⟩
        · simpa [remaining] using both
        · simpa [remaining] using both

end Encoding

def Action.Keeps {result part : Type} (view : State → part) (action : Action result) : Prop :=
  ∀ state, view (action.run state).2 = view state

namespace Action.Keeps

variable {first second part : Type} {view : State → part}

theorem pure (value : first) : (Pure.pure value : Action first).Keeps view := fun _ => rfl

theorem bind {action : Action first} {next : first → Action second} (before : action.Keeps view)
    (after : ∀ value, (next value).Keeps view) : (action >>= next).Keeps view := by
  intro state
  have kept := before state
  rw [Action.run_bind]
  rcases outcome : action.run state with ⟨halt | value, middle⟩
  · rw [outcome] at kept
    exact kept
  · rw [outcome] at kept
    exact (after value middle).trans kept

end Action.Keeps

def Action.KeepsCustody {result : Type} (action : Action result) : Prop :=
  ∀ (state : State) (held : Multiset Object), (action.run state).2.custody held = state.custody held

namespace Action.KeepsCustody

theorem pure {result : Type} (value : result) : (pure value : Action result).KeepsCustody :=
  fun _ _ => rfl

theorem keeps {result : Type} {action : Action result} (kept : action.KeepsCustody)
    (held : Multiset Object) : action.Keeps fun state => state.custody held :=
  fun state => kept state held

theorem bind {first second : Type} {action : Action first} {next : first → Action second}
    (before : action.KeepsCustody) (after : ∀ value, (next value).KeepsCustody) :
    (action >>= next).KeepsCustody :=
  fun state held => ((before.keeps held).bind fun value => (after value).keeps held) state

end Action.KeepsCustody

section Decoding

theorem bufferBytes_keepsCustody (address : Address) (length : Int32) :
    (bufferBytes address length).KeepsCustody := by
  intro state held
  unfold bufferBytes
  split
  · rfl
  · split
    · rfl
    · simp only [Action.run_bind, Action.run_get]
      split <;> rfl

theorem decodeText_keepsCustody (length : Int32) (bytes : List UInt8) :
    (decodeText length bytes).KeepsCustody := by
  intro state held
  unfold decodeText
  split <;> rfl

theorem unpackText_keepsCustody (address : Address) (length : Int32) :
    (unpackText address length).KeepsCustody :=
  .bind (bufferBytes_keepsCustody address length) fun bytes =>
    .bind (decodeText_keepsCustody length bytes) fun _ =>
      .bind (fun _ _ => rfl) fun _ => .pure _

theorem run_unpackHandle (address : Address) (state : State) :
    (unpackHandle address).run state =
      match Handle.ofAddress? address with
      | none => (Action.abort .nullHandle).run state
      | some handle =>
        match state.registry.resolve? handle with
        | none => (Action.abort .strayHandle).run state
        | some object => (.ok object, { state with objects := state.objects.retain object }) := by
  unfold unpackHandle
  cases Handle.ofAddress? address with
  | none => rfl
  | some handle =>
      cases resolved : state.registry.resolve? handle with
      | none => simp [run_resolveHandle, resolved]
      | some object => simp [run_resolveHandle, resolved]

theorem unpackAs_of_plain (record : NativeRecord) {tag : Tag} (plain : tag ≠ .ownedHandle)
    (state : State) :
    (∀ held, ((unpackAs record tag).run state).2.custody held = state.custody held) ∧
      ∀ object, ((unpackAs record tag).run state).1 ≠ .ok (some (.object object)) := by
  cases tag with
  | ownedHandle => exact absurd rfl plain
  | string =>
      have kept := unpackText_keepsCustody record.payload.toAddress record.length state
      rw [unpackAs, Action.run_bind]
      rcases outcome : (unpackText record.payload.toAddress record.length).run state
        with ⟨halt | text, after⟩
      · rw [outcome] at kept
        exact ⟨kept, by simp⟩
      · rw [outcome] at kept
        exact ⟨kept, by simp⟩
  | _ => exact ⟨fun _ => rfl, by simp [unpackAs]⟩

theorem run_unpack_of_tag {record : NativeRecord} {tag : Tag} (tagged : record.tag? = some tag)
    (state : State) :
    (unpack record).run state = (unpackAs record tag).run { state with
      events := state.events ++ [.unpacking tag record.length] } := by
  unfold unpack
  simp only [tagged, Action.run_bind, Action.run_emit]

/-- A record is decoded to an object, which is registered under the handle it carries, or to no
object and without a change of custody. -/
theorem unpack_cases (record : NativeRecord) (state : State) :
    (∃ handle object, record.tag? = some .ownedHandle ∧
        Handle.ofAddress? record.payload.toAddress = some handle ∧
        state.registry.resolve? handle = some object ∧
        ((unpack record).run state).1 = .ok (some (.object object)) ∧
        ∀ held, ((unpack record).run state).2.custody held =
          ⟨state.registry, state.objects.retain object, held⟩) ∨
      (∀ held, ((unpack record).run state).2.custody held = state.custody held) ∧
        ∀ object, ((unpack record).run state).1 ≠ .ok (some (.object object)) := by
  cases tagged : record.tag? with
  | none =>
      have ended : unpack record = .abort (.unsupportedTag record.raw) := by simp only [unpack, tagged]
      rw [ended]
      exact Or.inr ⟨fun _ => rfl, by simp⟩
  | some tag =>
      rw [run_unpack_of_tag tagged]
      by_cases plain : tag = .ownedHandle
      · subst plain
        rw [unpackAs, Action.run_bind, run_unpackHandle]
        cases valid : Handle.ofAddress? record.payload.toAddress with
        | none => exact Or.inr ⟨fun _ => rfl, by simp⟩
        | some handle =>
            cases resolved : state.registry.resolve? handle with
            | none => exact Or.inr ⟨fun _ => by simp [resolved, State.custody], by simp [resolved]⟩
            | some object =>
                exact Or.inl ⟨handle, object, rfl, rfl, resolved, by simp [resolved],
                  fun _ => by simp [resolved, State.custody]⟩
      · exact Or.inr (unpackAs_of_plain record plain _)

theorem unpack_result_of_handle {record : NativeRecord} {handle : Handle}
    (tagged : record.tag? = some .ownedHandle)
    (carries : record.payload.toAddress = handle.number) (state : State) :
    ((unpack record).run state).1 =
      match state.registry.resolve? handle with
      | some object => .ok (some (.object object))
      | none => .error (.abort .strayHandle) := by
  rw [run_unpack_of_tag tagged, unpackAs, Action.run_bind, run_unpackHandle, carries]
  cases resolved : state.registry.resolve? handle with
  | none => simp [resolved]
  | some object => simp [resolved]

theorem unpack_registry (record : NativeRecord) (state : State) :
    ((unpack record).run state).2.registry = state.registry := by
  rcases unpack_cases record state with ⟨_, _, _, _, _, _, custody⟩ | ⟨custody, _⟩
  · exact congrArg Custody.registry (custody 0)
  · exact congrArg Custody.registry (custody 0)

theorem unpack_moves {record : NativeRecord} {state after : State} {value : Option Value}
    (held : Multiset Object) (ran : (unpack record).run state = (.ok value, after)) :
    (state.custody held).Moves [] (after.custody (referencesIn [value] + held)) := by
  rcases unpack_cases record state with
    ⟨handle, object, _, _, resolved, result, custody⟩ | ⟨custody, noObject⟩
  · rw [ran] at result custody
    obtain rfl : value = some (.object object) := Except.ok.inj result
    rw [custody]
    have move : (state.custody held).Move _ _ := .take resolved
    exact move.moves
  · rw [ran] at noObject custody
    have none : value.bind Value.object? = none := by
      match value with
      | some (.object object) => exact absurd rfl (noObject object)
      | none | some (.bool _) | some (.int _) | some (.int32 _) | some (.int64 _)
      | some (.float32 _) | some (.float64 _) | some (.string _) | some (.handle _) => rfl
    rw [custody, referencesIn_cons, none]
    simpa using Custody.Moves.refl

theorem unpack_error_custody {record : NativeRecord} {state after : State} {halt : Halt}
    (held : Multiset Object) (ran : (unpack record).run state = (.error halt, after)) :
    after.custody held = state.custody held := by
  rcases unpack_cases record state with ⟨_, _, _, _, _, result, _⟩ | ⟨custody, _⟩
  · rw [ran] at result
    cases result
  · rw [ran] at custody
    exact custody held

theorem run_unpackAll_cons (record : NativeRecord) (rest : List NativeRecord) (state : State) :
    (unpackAll (record :: rest)).run state =
      match (unpack record).run state with
      | (.ok value, after) =>
        match (unpackAll rest).run after with
        | (.ok values, final) => (.ok (value :: values), final)
        | (.error (.panic cause), final) =>
          (.error (.panic cause), ((dropValue value).run final).2)
        | (.error halt, final) => (.error halt, final)
      | (.error halt, after) => (.error halt, after) := by
  rcases outcome : (unpack record).run state with ⟨_ | value, after⟩
  · simp [unpackAll, outcome]
  · rcases remaining : (unpackAll rest).run after with ⟨halt | _, _⟩
    · cases halt <;> simp [unpackAll, Action.run_orCleanUp, outcome, remaining]
    · simp [unpackAll, Action.run_orCleanUp, outcome, remaining]

theorem unpackAll_cons_ok {record : NativeRecord} {rest : List NativeRecord} {state after : State}
    {values : List (Option Value)}
    (ran : (unpackAll (record :: rest)).run state = (.ok values, after)) :
    ∃ value middle others, (unpack record).run state = (.ok value, middle) ∧
      (unpackAll rest).run middle = (.ok others, after) ∧ values = value :: others := by
  rw [run_unpackAll_cons] at ran
  rcases outcome : (unpack record).run state with ⟨halt | value, middle⟩
  · simp [outcome] at ran
  · rcases remaining : (unpackAll rest).run middle with ⟨halt | others, final⟩
    · cases halt <;> simp [outcome, remaining] at ran
    · simp only [outcome, remaining, Prod.mk.injEq, Except.ok.injEq] at ran
      obtain ⟨rfl, rfl⟩ := ran
      exact ⟨value, middle, others, rfl, remaining, rfl⟩

theorem unpackAll_cons_panic {record : NativeRecord} {rest : List NativeRecord}
    {state after : State} {cause : Panic}
    (ran : (unpackAll (record :: rest)).run state = (.error (.panic cause), after)) :
    (unpack record).run state = (.error (.panic cause), after) ∨
      ∃ value middle final, (unpack record).run state = (.ok value, middle) ∧
        (unpackAll rest).run middle = (.error (.panic cause), final) ∧
        after = ((dropValue value).run final).2 := by
  rw [run_unpackAll_cons] at ran
  rcases outcome : (unpack record).run state with ⟨halt | value, middle⟩
  · simp only [outcome, Prod.mk.injEq, Except.error.injEq] at ran
    obtain ⟨rfl, rfl⟩ := ran
    exact Or.inl rfl
  · rcases remaining : (unpackAll rest).run middle with ⟨halt | others, final⟩
    · cases halt with
      | panic other =>
          simp only [outcome, remaining, Prod.mk.injEq, Except.error.injEq,
            Halt.panic.injEq] at ran
          obtain ⟨rfl, rfl⟩ := ran
          exact Or.inr ⟨value, middle, final, rfl, remaining, rfl⟩
      | abort _ | outOfMemory _ | fault _ _ => simp [outcome, remaining] at ran
    · simp [outcome, remaining] at ran

theorem dropValue_moves (value : Option Value) (state : State) (held : Multiset Object) :
    (state.custody (referencesIn [value] + held)).Moves []
      (((dropValue value).run state).2.custody held) := by
  match value with
  | some (.object object) =>
      have mem : object ∈ referencesIn [some (.object object)] + held := by
        simp [referencesIn_cons, Value.object?]
      have move : (state.custody (referencesIn [some (.object object)] + held)).Move _ _ :=
        .drop mem
      have erased : (referencesIn [some (.object object)] + held).erase object = held := by
        simp [referencesIn_cons, Value.object?]
      have moves := move.moves
      simp only [State.custody, erased] at moves
      exact moves
  | none | some (.bool _) | some (.int _) | some (.int32 _) | some (.int64 _)
  | some (.float32 _) | some (.float64 _) | some (.string _) | some (.handle _) =>
      simpa [referencesIn_cons, Value.object?, dropValue] using Custody.Moves.refl

theorem dropValue_registry (value : Option Value) (state : State) :
    ((dropValue value).run state).2.registry = state.registry := by
  unfold dropValue
  split <;> rfl

theorem unpackAll_registry (records : List NativeRecord) (state : State) :
    ((unpackAll records).run state).2.registry = state.registry := by
  induction records generalizing state with
  | nil => rfl
  | cons record rest ih =>
      have first := unpack_registry record state
      rw [run_unpackAll_cons]
      rcases outcome : (unpack record).run state with ⟨_ | value, after⟩
      · simpa [outcome] using first
      · have later := ih after
        rw [outcome] at first
        rcases remaining : (unpackAll rest).run after with ⟨halt | _, final⟩
        · rw [remaining] at later
          cases halt <;> simp_all [dropValue_registry]
        · simp_all

theorem unpackAll_moves {records : List NativeRecord} {state after : State}
    {values : List (Option Value)} {held : Multiset Object}
    (ran : (unpackAll records).run state = (.ok values, after)) :
    (state.custody held).Moves [] (after.custody (referencesIn values + held)) := by
  induction records generalizing state values held with
  | nil =>
      cases ran
      simpa using Custody.Moves.refl
  | cons record rest ih =>
      obtain ⟨value, middle, others, outcome, remaining, rfl⟩ := unpackAll_cons_ok ran
      have first := unpack_moves held outcome
      have later : (middle.custody (referencesIn [value] + held)).Moves _ _ := ih remaining
      have total : referencesIn others + (referencesIn [value] + held) =
          referencesIn (value :: others) + held := by
        rw [referencesIn_cons, referencesIn_cons value others, referencesIn_nil, Multiset.add_zero,
          ← Multiset.add_assoc, Multiset.add_comm (referencesIn others)]
      rw [total] at later
      exact first.trans later

/-- A batch that panics gives back what it took. -/
theorem unpackAll_panic_moves {records : List NativeRecord} {state after : State} {cause : Panic}
    {held : Multiset Object}
    (ran : (unpackAll records).run state = (.error (.panic cause), after)) :
    (state.custody held).Moves [] (after.custody held) := by
  induction records generalizing state after held with
  | nil => cases ran
  | cons record rest ih =>
      rcases unpackAll_cons_panic ran with
        outcome | ⟨value, middle, final, outcome, remaining, rfl⟩
      · rw [unpack_error_custody held outcome]
        exact .refl
      · have first := unpack_moves held outcome
        have later : (middle.custody (referencesIn [value] + held)).Moves _ _ := ih remaining
        exact (first.trans later).trans (dropValue_moves value final held)

end Decoding

end Boundary
