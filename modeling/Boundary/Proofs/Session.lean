import Boundary.Proofs.Likeness
import Boundary.Session

/-!
Sessions as programs at work on the boundary. Main statement: every session comes down to calls, however
many steps it has, so that the references to an object are its names and the registry's own.
-/

namespace Boundary

theorem Objects.vacant_freeAddress (objects : Objects) :
    objects.cells[objects.freeAddress]? = none := by
  unfold freeAddress
  cases found : objects.candidates.find? fun address => !objects.cells.contains address with
  | some address =>
      have vacant := List.find?_some found
      simpa [← Std.TreeMap.contains_iff_mem] using vacant
  | none =>
      -- All candidates would be keys of the map, which has fewer of them.
      have occupied := List.find?_eq_none.1 found
      have distinct : objects.candidates.Nodup :=
        List.nodup_range.map fun left right same => by
          have equal : 16 * (left + 1) = 16 * (right + 1) := same
          exact Nat.succ.inj (Nat.eq_of_mul_eq_mul_left (by decide) equal)
      have among : objects.candidates ⊆ objects.cells.keys := fun address member => by
        simpa using occupied address member
      have few := distinct.length_le_of_subset among
      rw [candidates, List.length_map, List.length_range, Std.TreeMap.length_keys] at few
      exact absurd few (Nat.not_succ_le_self _)

/-- What an action does, if it is survived, is a matter of calls of a program that holds references. -/
def Action.IsCalls {result : Type} (action : Action result) (received : result → Multiset Object)
    (held : Multiset Object) : Prop :=
  ∀ state after, World.after? ⟨state, held⟩ action received = some after →
    World.LeadsTo ⟨state, held⟩ after

namespace Action.IsCalls

variable {first second : Type} {action : Action first} {held : Multiset Object}

theorem of_keepsCustody (keeps : action.KeepsCustody) : action.IsCalls (fun _ => 0) held := by
  intro state after performed
  have same : state.custody held = after.custody :=
    (keeps state held).symm.trans (World.custody_of_after? performed).symm
  exact .native (congrArg Custody.registry same) (congrArg Custody.objects same)
    (congrArg Custody.held same)

theorem bind {next : first → Action second} {received : second → Multiset Object}
    (before : action.IsCalls (fun _ => 0) held) (after : ∀ value, (next value).IsCalls received held) :
    (action >>= next).IsCalls received held := by
  intro state last performed
  unfold World.after? at performed
  rw [Action.run_bind] at performed
  rcases ran : action.run state with ⟨outcome, middle⟩
  rw [ran] at performed
  match outcome with
  | .ok value =>
      have reached := before state ⟨middle, held⟩ (by simp [World.after?, ran])
      exact reached.trans (after value middle last performed)
  | .error (.panic cause) =>
      cases performed
      exact before state ⟨middle, held⟩ (by simp [World.after?, ran])
  | .error (.abort _) | .error (.outOfMemory _) | .error (.fault _ _) => cases performed

theorem map {received : first → Multiset Object} {brought : second → Multiset Object}
    (calls : action.IsCalls received held) (change : first → second)
    (same : ∀ value, brought (change value) = received value) :
    (action >>= fun value => Pure.pure (change value)).IsCalls brought held := by
  intro state last performed
  apply calls state last
  unfold World.after? at performed ⊢
  rw [Action.run_bind] at performed
  rcases ran : action.run state with ⟨outcome, middle⟩
  rw [ran] at performed
  match outcome with
  | .ok value => simpa [same] using performed
  | .error (.panic _) => exact performed
  | .error (.abort _) | .error (.outOfMemory _) | .error (.fault _ _) => cases performed

theorem of_call {received : first → Multiset Object} (call : Call)
    (permitted : ∀ state, World.Permits ⟨state, held⟩ call)
    (same : ∀ state, World.perform? ⟨state, held⟩ call = World.after? ⟨state, held⟩ action received) :
    action.IsCalls received held :=
  fun state _ performed => .call call (permitted state) ((same state).trans performed)

end Action.IsCalls

section Keeping

open Boundary.Action

theorem supply_keepsCustody (placement : Placement) (size : Nat) (bytes : List UInt8) :
    (supply placement size bytes).KeepsCustody := by
  refine .bind ?_ fun block => .bind ?_ fun _ => .pure _
  · intro state held
    simp only [allocate, run_bind, run_get]
    split <;> rfl
  · intro state held
    unfold Block.fill
    split <;> rfl

theorem checkedLength_keepsCustody (size : Nat) : (checkedLength size).KeepsCustody := by
  intro state held
  unfold checkedLength
  split <;> rfl

theorem toNative_keepsCustody (layout : Layout) (placement : Placement) :
    (layout.toNative placement).KeepsCustody := by
  have copies (size : Nat) (bytes : List UInt8) (length : Nat) :
      (checkedLength length >>= fun _ => supply placement size bytes).KeepsCustody :=
    .bind (checkedLength_keepsCustody _) fun _ => supply_keepsCustody placement _ _
  exact .bind (copies _ _ _) fun _ => .bind (copies _ _ _) fun _ =>
    .bind (supply_keepsCustody placement _ _) fun _ =>
      .bind (supply_keepsCustody placement _ _) fun _ => .bind (fun _ _ => rfl) fun _ => .pure _

theorem tagOfType_keepsCustody (type : HostType) (platform : Platform) :
    (tagOfType type platform).KeepsCustody := by
  intro state held
  unfold tagOfType
  split <;> rfl

theorem Layout.Draft.addAll_keepsCustody (owner : String) (platform : Platform) (draft : Draft)
    (index : Nat) (fields : List Field) :
    (draft.addAll owner platform index fields).KeepsCustody := by
  induction fields generalizing draft index with
  | nil => exact .pure _
  | cons field rest ih =>
      refine .bind (fun state held => ?_) fun draft => ih draft (index + 1)
      unfold add
      split <;> rfl

theorem Layout.build_keepsCustody (typeName : String) (fields : List Field) (platform : Platform) :
    (build typeName fields platform).KeepsCustody := by
  unfold build
  split
  · exact .bind (fun _ _ => rfl) fun _ => .pure _
  · refine .bind (Draft.addAll_keepsCustody typeName platform {} 0 fields) fun draft => ?_
    split
    · exact .pure _
    · split
      · exact fun _ _ => rfl
      · exact .bind (fun _ _ => rfl) fun _ => .pure _

theorem exportComposite_keepsCustody (bridge : Bridge) (placement : Placement)
    (composite : Composite) : (bridge.exportComposite placement composite).KeepsCustody := by
  refine .bind (Layout.build_keepsCustody _ _ _) fun result => ?_
  split
  · exact .pure _
  · exact .bind (toNative_keepsCustody _ placement) fun _ => .pure _

theorem freeMetadata_keepsCustody (address : Address) : (freeMetadata address).KeepsCustody := by
  intro state held
  simp only [freeMetadata, run_bind, run_get]
  split <;> rfl

theorem echoAll_keepsCustody (placement : Placement) (records : List Record) :
    (echoAll placement records).KeepsCustody := by
  induction records with
  | nil => exact .pure _
  | cons record rest ih =>
      refine .bind ?_ fun _ => .bind ih fun _ => .pure _
      unfold echoRecord
      split
      · exact .bind (supply_keepsCustody placement _ _) fun _ => .pure _
      · exact .pure _

end Keeping

namespace Session

open Boundary.Action

theorem receive_keepsCustody (incoming : Incoming) : (receive incoming).KeepsCustody := by
  unfold receive
  split
  · exact .pure _
  · exact .pure _
  · exact .bind (supply_keepsCustody _ _ _) fun _ => .pure _
  · exact .bind (supply_keepsCustody _ _ _) fun _ => .pure _

theorem receiveAll_keepsCustody (records : List Incoming) : (receiveAll records).KeepsCustody := by
  induction records with
  | nil => exact .pure _
  | cons incoming rest ih =>
      exact .bind (receive_keepsCustody incoming) fun _ => .bind ih fun _ => .pure _

theorem inspectExport_keepsCustody {action : Action (Except Error Address)}
    (keeps : action.KeepsCustody) : (inspectExport action).KeepsCustody := by
  refine .bind keeps fun result => ?_
  split
  · exact .pure _
  · intro state held
    rename_i address
    simp only [run_bind, run_get]
    split
    · rfl
    · have kept := freeMetadata_keepsCustody address state held
      rcases ran : (freeMetadata address).run state with ⟨outcome, after⟩
      rw [ran] at kept
      cases outcome <;> simpa [ran] using kept

variable {session : Session} {names others : Std.TreeMap String Object} {name : String}
  {object : Object}

section Held

def heldBy (names : Std.TreeMap String Object) : Multiset Object := ↑(names.toList.map Prod.snd)

theorem nodup_toList (names : Std.TreeMap String Object) : names.toList.Nodup := by
  have keys := names.nodup_keys
  rw [← Std.TreeMap.map_fst_toList_eq_keys] at keys
  exact List.Nodup.of_map Prod.fst keys

theorem heldBy_eq_cons (there : others[name]? = some object)
    (same : ∀ key, key ≠ name → others[key]? = names[key]?) :
    heldBy others = object ::ₘ heldBy (names.erase name) := by
  have unnamed : (name, object) ∉ (names.erase name).toList := by
    rw [Std.TreeMap.mem_toList_iff_getElem?_eq_some]
    simp
  have permuted : others.toList.Perm ((name, object) :: (names.erase name).toList) := by
    rw [List.perm_ext_iff_of_nodup (nodup_toList others)
      (List.nodup_cons.2 ⟨unnamed, nodup_toList _⟩)]
    rintro ⟨key, value⟩
    rw [List.mem_cons, Std.TreeMap.mem_toList_iff_getElem?_eq_some,
      Std.TreeMap.mem_toList_iff_getElem?_eq_some, Std.TreeMap.getElem?_erase]
    by_cases here : key = name
    · subst here
      simp [there, eq_comm]
    · simp [same key here, here, Ne.symm here]
  exact Multiset.coe_eq_coe.2 (permuted.map Prod.snd)

theorem heldBy_erase (there : names[name]? = some object) :
    heldBy names = object ::ₘ heldBy (names.erase name) :=
  heldBy_eq_cons there fun _ _ => rfl

theorem heldBy_insert (names : Std.TreeMap String Object) (name : String) (object : Object) :
    heldBy (names.insert name object) = object ::ₘ heldBy (names.erase name) := by
  refine heldBy_eq_cons (by simp) fun key other => ?_
  simp [Std.TreeMap.getElem?_insert, Ne.symm other]

theorem heldBy_erase_of_unused (unused : names[name]? = none) :
    heldBy (names.erase name) = heldBy names := by
  have permuted : (names.erase name).toList.Perm names.toList := by
    rw [List.perm_ext_iff_of_nodup (nodup_toList _) (nodup_toList _)]
    rintro ⟨key, value⟩
    rw [Std.TreeMap.mem_toList_iff_getElem?_eq_some, Std.TreeMap.mem_toList_iff_getElem?_eq_some,
      Std.TreeMap.getElem?_erase]
    by_cases here : key = name
    · subst here
      simp [unused]
    · simp [Ne.symm here]
  exact Multiset.coe_eq_coe.2 (permuted.map Prod.snd)

end Held

def held (session : Session) : Multiset Object := heldBy session.objects

def world (session : Session) : World := ⟨session.state, session.held⟩

theorem mem_held (named : session.objects[name]? = some object) : object ∈ session.held := by
  rw [held, heldBy_erase named]
  exact Multiset.mem_cons_self _ _

section Keep

theorem assign_leadsTo (session : Session) (name : String) (object : Object) :
    World.LeadsTo ⟨session.state, object ::ₘ session.held⟩ (session.assign name object).world := by
  unfold assign world held
  dsimp only
  cases named : session.objects[name]? with
  | none =>
      rw [heldBy_insert, heldBy_erase_of_unused named]
      exact .refl _
  | some former =>
      refine .call (.drop former) ?_ ?_
      · exact Multiset.mem_cons_of_mem (mem_held named)
      · rw [World.perform?, heldBy_insert, heldBy_erase named, Multiset.cons_swap,
          Multiset.erase_cons_head]

theorem drop_leadsTo (state : State) (object : Object) (held : Multiset Object) :
    World.LeadsTo ⟨state, object ::ₘ held⟩
      ⟨{ state with objects := state.objects.drop object }, held⟩ := by
  refine .call (.drop object) (Multiset.mem_cons_self _ _) ?_
  rw [World.perform?, Multiset.erase_cons_head]

theorem keep_leadsTo (session : Session) (object : Object) (target : Option String) :
    World.LeadsTo ⟨session.state, object ::ₘ session.held⟩ (session.keep object target).world := by
  cases target with
  | some name => exact session.assign_leadsTo name object
  | none => exact drop_leadsTo session.state object session.held

theorem keepValue_of_plain (session : Session) (target : Option String) {value : Option Value}
    (plain : value.bind Value.object? = none) : session.keepValue target value = session := by
  unfold keepValue
  split
  · cases plain
  · rfl

theorem keepValue_leadsTo (session : Session) (target : Option String) (value : Option Value) :
    World.LeadsTo ⟨session.state, referencesIn [value] + session.held⟩
      (session.keepValue target value).world := by
  cases kind : value.bind Value.object? with
  | none =>
      rw [keepValue_of_plain session target kind, referencesIn_cons, kind]
      simpa using .refl _
  | some object =>
      obtain ⟨_, rfl, found⟩ := Option.bind_eq_some_iff.1 kind
      obtain rfl := Value.eq_object_of_object? found
      exact session.keep_leadsTo object target

theorem keepValues_leadsTo (values : List (Option Value)) (session : Session) :
    World.LeadsTo ⟨session.state, referencesIn values + session.held⟩
      (session.keepValues values).world := by
  induction values generalizing session with
  | nil => simpa using .refl _
  | cons value rest ih =>
      refine World.LeadsTo.trans ?_ (ih (session.keepValue none value))
      rw [referencesIn_cons]
      cases kind : value.bind Value.object? with
      | none =>
          rw [keepValue_of_plain session none kind]
          simpa using .refl _
      | some object =>
          obtain ⟨_, rfl, found⟩ := Option.bind_eq_some_iff.1 kind
          obtain rfl := Value.eq_object_of_object? found
          have dropped := drop_leadsTo session.state object (referencesIn rest + session.held)
          simpa [keepValue, keep, held] using dropped

end Keep

def Survived {result : Type} : Except Halt result → Prop
  | .ok _ | .error (.panic _) => True
  | .error _ => False

section Act

variable {result : Type} {action : Action result} {received : result → Multiset Object}
  {after : Session}

theorem leadsTo_of_ok {value : result} (calls : action.IsCalls received session.held)
    (acted : session.act action = (.ok value, after)) :
    session.world.LeadsTo ⟨after.state, received value + after.held⟩ := by
  unfold act at acted
  rcases ran : action.run session.state with ⟨outcome, state⟩
  rw [ran] at acted
  cases acted
  exact calls session.state _ (by simp [World.after?, ran]; rfl)

theorem leadsTo_of_panic {cause : Panic} (calls : action.IsCalls received session.held)
    (acted : session.act action = (.error (.panic cause), after)) :
    session.world.LeadsTo after.world := by
  unfold act at acted
  rcases ran : action.run session.state with ⟨outcome, state⟩
  rw [ran] at acted
  cases acted
  exact calls session.state _ (by simp [World.after?, ran]; rfl)

theorem reply_leadsTo {toReply : result → Reply} {outcome : Except Halt Reply}
    (calls : action.IsCalls (fun _ => 0) session.held)
    (replied : session.reply action toReply = some (outcome, after)) (survived : Survived outcome) :
    session.world.LeadsTo after.world := by
  unfold reply at replied
  rcases acted : session.act action with ⟨ended, final⟩
  rw [acted] at replied
  cases replied
  match ended with
  | .ok value => simpa [world] using leadsTo_of_ok calls acted
  | .error (.panic cause) => exact leadsTo_of_panic calls acted
  | .error (.abort _) | .error (.outOfMemory _) | .error (.fault _ _) => cases survived

theorem decodeAll_leadsTo {action : Action (List (Option Value))}
    {toReply : Session → List (Option Value) → Reply} {outcome : Except Halt Reply}
    (calls : action.IsCalls referencesIn session.held)
    (decoded : session.decodeAll action toReply = (outcome, after)) (survived : Survived outcome) :
    session.world.LeadsTo after.world := by
  unfold decodeAll at decoded
  rcases acted : session.act action with ⟨ended, final⟩
  rw [acted] at decoded
  match ended with
  | .ok values =>
      cases decoded
      exact (leadsTo_of_ok calls acted).trans (final.keepValues_leadsTo values)
  | .error (.panic cause) =>
      cases decoded
      exact leadsTo_of_panic calls acted
  | .error (.abort _) | .error (.outOfMemory _) | .error (.fault _ _) =>
      cases decoded
      cases survived

end Act

section Calls

variable {held : Multiset Object}

theorem wrapObject_isCalls {object : Object} (owned : object ∈ held) :
    (wrapObject object).IsCalls (fun _ => 0) held :=
  .of_call (.wrap object) (fun _ => owned) fun _ => rfl

theorem releaseHandle_isCalls (handle : Handle) : (releaseHandle handle).IsCalls (fun _ => 0) held :=
  .of_call (.release handle) (fun _ => trivial) fun _ => rfl

theorem resolveHandle_isCalls (handle : Handle) :
    (resolveHandle handle).IsCalls (fun found => ↑found.toList) held :=
  .of_call (.resolve handle) (fun _ => trivial) fun _ => rfl

theorem unpack_isCalls (record : NativeRecord) :
    (unpack record).IsCalls (fun value => referencesIn [value]) held :=
  .of_call (.unpack record) (fun _ => trivial) fun _ => rfl

theorem unpackAll_isCalls (records : List NativeRecord) :
    (unpackAll records).IsCalls referencesIn held :=
  .of_call (.unpackAll records) (fun _ => trivial) fun _ => rfl

theorem guard_keepsCustody (bridge : Bridge) (thread : Thread) (value : Value) :
    (bridge.guard thread value).KeepsCustody := by
  intro state held
  unfold Bridge.guard
  split <;> rfl

theorem guardAll_keepsCustody (bridge : Bridge) (thread : Thread) (values : List Value) :
    (bridge.guardAll thread values).KeepsCustody := by
  induction values with
  | nil => exact .pure _
  | cons value rest ih => exact .bind (guard_keepsCustody bridge thread value) fun _ => ih

theorem pack_isCalls {bridge : Bridge} {thread : Thread} {value : Value}
    (owned : ∀ object ∈ value.object?, object ∈ held) :
    (bridge.pack thread value).IsCalls (fun _ => 0) held :=
  .bind (.of_keepsCustody (guard_keepsCustody bridge thread value)) fun _ =>
    .of_call (.pack bridge.platform value) (fun _ => owned) fun _ => rfl

theorem packAll_isCalls {bridge : Bridge} {thread : Thread} {values : List Value}
    (owned : ∀ value ∈ values, ∀ object ∈ value.object?, object ∈ held) :
    (bridge.packAll thread values).IsCalls (fun _ => 0) held :=
  .bind (.of_keepsCustody (guardAll_keepsCustody bridge thread values)) fun _ =>
    .of_call (.packAll bridge.platform values) (fun _ => owned) fun _ => rfl

theorem roundTrip_isCalls {bridge : Bridge} {placement : Placement} {thread : Thread}
    {values : List Value} (owned : ∀ value ∈ values, ∀ object ∈ value.object?, object ∈ held) :
    (bridge.roundTrip placement thread values).IsCalls referencesIn held :=
  .bind (packAll_isCalls owned) fun records =>
    .bind (.of_keepsCustody (echoAll_keepsCustody placement records)) fun answers =>
      unpackAll_isCalls answers

end Calls

theorem owned_of_value? {argument : Argument} {value : Value}
    (found : session.value? argument = some value) :
    ∀ object ∈ value.object?, object ∈ session.held := by
  intro object among
  cases argument with
  | plain given simple =>
      cases found
      rw [simple] at among
      cases among
  | named name =>
      obtain ⟨target, named, rfl⟩ := Option.map_eq_some_iff.1 found
      cases among
      exact mem_held named

theorem owned_of_mapM_value? {arguments : List Argument} {values : List Value}
    (found : arguments.mapM session.value? = some values) :
    ∀ value ∈ values, ∀ object ∈ value.object?, object ∈ session.held := by
  induction arguments generalizing values with
  | nil =>
      cases found
      simp
  | cons argument rest ih =>
      rw [List.mapM_cons] at found
      obtain ⟨value, first, further⟩ := Option.bind_eq_some_iff.1 found
      obtain ⟨others, remaining, same⟩ := Option.bind_eq_some_iff.1 further
      cases same
      intro other member
      rcases List.mem_cons.1 member with rfl | later
      · exact owned_of_value? first
      · exact ih remaining other later

theorem decode_leadsTo {incoming : Incoming} {target : Option String} {outcome : Except Halt Reply}
    {after : Session} (decoded : session.decode incoming target = (outcome, after))
    (survived : Survived outcome) : session.world.LeadsTo after.world := by
  have calls : (do
      let record ← receive incoming
      let value ← unpack record
      pure (record, value)).IsCalls (fun pair => referencesIn [pair.2]) session.held :=
    .bind (.of_keepsCustody (receive_keepsCustody incoming)) fun record =>
      .map (unpack_isCalls record) _ fun _ => rfl
  unfold decode at decoded
  dsimp only at decoded
  split at decoded
  · rename_i record value final acted
    cases decoded
    exact (leadsTo_of_ok calls acted).trans (final.keepValue_leadsTo target value)
  · rename_i halt final acted
    cases decoded
    match halt with
    | .panic cause => exact leadsTo_of_panic calls acted
    | .abort _ | .outOfMemory _ | .fault _ _ => cases survived

theorem create_leadsTo (session : Session) (content : Content) :
    session.world.LeadsTo
      ⟨{ session.state with
        objects := (session.state.objects.create content session.state.objects.freeAddress).2 },
        (session.state.objects.create content session.state.objects.freeAddress).1 ::ₘ session.held⟩ :=
  .call (.create content _) session.state.objects.vacant_freeAddress rfl

/-- One step: unless the process ends, calls lead from the world before it to the one after it. -/
theorem perform_leadsTo {step : Step} {outcome : Except Halt Reply} {after : Session}
    (performed : session.perform step = some (outcome, after)) (survived : Survived outcome) :
    session.world.LeadsTo after.world := by
  cases step with
  | create name content =>
      cases performed
      refine (session.create_leadsTo content).trans ?_
      exact assign_leadsTo { session with state := { session.state with objects := _ } } name _
  | copy name target =>
      obtain ⟨object, named, rest⟩ := Option.bind_eq_some_iff.1 performed
      cases rest
      refine World.LeadsTo.trans ?_ (assign_leadsTo _ target object)
      exact .call (.copy object) (mem_held named) rfl
  | forget name =>
      simp only [perform] at performed
      cases named : session.objects[name]? with
      | none =>
          rw [named] at performed
          cases performed
          exact .refl _
      | some object =>
          rw [named] at performed
          cases performed
          rw [world, held, heldBy_erase named]
          exact drop_leadsTo session.state object _
  | references name | describe name =>
      obtain ⟨object, named, rest⟩ := Option.bind_eq_some_iff.1 performed
      cases rest
      exact .refl _
  | compare left right =>
      obtain ⟨first, _, further⟩ := Option.bind_eq_some_iff.1 performed
      obtain ⟨second, _, rest⟩ := Option.bind_eq_some_iff.1 further
      cases rest
      exact .refl _
  | look name kind =>
      obtain ⟨object, named, rest⟩ := Option.bind_eq_some_iff.1 performed
      split at rest <;> cases rest <;> exact .refl _
  | wrap name =>
      obtain ⟨object, named, rest⟩ := Option.bind_eq_some_iff.1 performed
      exact reply_leadsTo (wrapObject_isCalls (mem_held named)) rest survived
  | resolve address target =>
      simp only [perform] at performed
      split at performed
      · cases performed
        exact .refl _
      · rename_i handle _
        have calls : (resolveHandle handle).IsCalls _ session.held := resolveHandle_isCalls handle
        split at performed
        · rename_i object middle acted
          cases performed
          exact (leadsTo_of_ok calls acted).trans (middle.keep_leadsTo object target)
        · rename_i middle acted
          cases performed
          simpa [world] using leadsTo_of_ok calls acted
        · rename_i halt middle acted
          cases performed
          match halt with
          | .panic cause => exact leadsTo_of_panic calls acted
          | .abort _ | .outOfMemory _ | .fault _ _ => cases survived
  | release address =>
      simp only [perform] at performed
      split at performed
      · cases performed
        exact .refl _
      · exact reply_leadsTo (releaseHandle_isCalls _) performed survived
  | count address =>
      simp only [perform] at performed
      split at performed <;> cases performed <;> exact .refl _
  | table | handle _ | onHomeThread _ | platform =>
      cases performed
      exact .refl _
  | pack thread argument =>
      obtain ⟨value, found, rest⟩ := Option.bind_eq_some_iff.1 performed
      exact reply_leadsTo (pack_isCalls (owned_of_value? found)) rest survived
  | packAll thread arguments =>
      obtain ⟨values, found, rest⟩ := Option.bind_eq_some_iff.1 performed
      exact reply_leadsTo (packAll_isCalls (owned_of_mapM_value? found)) rest survived
  | unpack incoming target => exact decode_leadsTo (Option.some.inj performed) survived
  | unpackAll records =>
      have calls : (do Boundary.unpackAll (← receiveAll records)).IsCalls referencesIn session.held :=
        .bind (.of_keepsCustody (receiveAll_keepsCustody records)) unpackAll_isCalls
      exact decodeAll_leadsTo calls (Option.some.inj performed) survived
  | roundTrip thread arguments =>
      obtain ⟨values, found, rest⟩ := Option.bind_eq_some_iff.1 performed
      exact decodeAll_leadsTo (roundTrip_isCalls (owned_of_mapM_value? found)) (Option.some.inj rest)
        survived
  | tagOf type =>
      exact reply_leadsTo (.of_keepsCustody (tagOfType_keepsCustody _ _)) performed survived
  | layout composite =>
      exact reply_leadsTo (.of_keepsCustody (Layout.build_keepsCustody _ _ _)) performed survived
  | metadata composite =>
      exact reply_leadsTo
        (.of_keepsCustody (inspectExport_keepsCustody (exportComposite_keepsCustody _ _ _))) performed
        survived

inductive Run (start : Session) : Session → Prop
  | refl : Run start start
  | step {session after : Session} {step : Step} {outcome : Except Halt Reply} :
      Run start session → session.perform step = some (outcome, after) → Survived outcome →
      Run start after

theorem Run.leadsTo {start after : Session} (run : Run start after) :
    start.world.LeadsTo after.world := by
  induction run with
  | refl => exact .refl _
  | step _ performed survived ih => exact ih.trans (perform_leadsTo performed survived)

structure Fresh (session : Session) : Prop where
  objects : session.objects = {}
  registry : session.state.registry = {}
  created : session.state.objects = {}
  blocks : session.state.memory.blocks = {}

theorem Fresh.alike_initial {start : Session} (fresh : start.Fresh) :
    start.world.Alike World.initial := by
  refine ⟨⟨fresh.registry, fresh.created, fresh.blocks⟩, ?_⟩
  rw [world, held, fresh.objects]
  rfl

/-- Whatever steps a session takes, some program could have brought its objects, its table and the blocks
in native memory to the same point by calls alone. So what holds of programs holds of sessions: the
references to an object are those of its names and the one of the table. -/
theorem session_comes_down_to_calls {start session : Session} (fresh : start.Fresh)
    (run : Run start session) :
    (∃ history world, World.initial.Run history world ∧ session.world.Alike world) ∧
      session.state.registry.Consistent ∧
      ∀ object, session.state.objects.referencesTo object =
        session.held.count object + (session.state.registry.holds object).toNat := by
  obtain ⟨history, world, reached, alike⟩ := run.leadsTo World.initial fresh.alike_initial
  have sound : session.world.custody.Sound := by
    rw [alike.custody]
    exact reached.sound
  exact ⟨⟨history, world, reached, alike⟩, sound.registry, sound.balanced⟩

end Session

end Boundary
