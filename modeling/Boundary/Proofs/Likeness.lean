import Boundary.Proofs.World

/-!
Actions in two states that are alike. Main statement: what calls make of a world does not depend on the
log, nor on what an allocator remembers of blocks that are gone.
-/

namespace Boundary

/-- In states that are the same in some respect, an action ends in the same way and leaves such states. -/
def Action.Respects {result : Type} (same : State → State → Prop) (action : Action result) : Prop :=
  ∀ first second : State, same first second →
    (action.run first).1 = (action.run second).1 ∧
      same (action.run first).2 (action.run second).2

namespace Action.Respects

variable {first second : Type} {same : State → State → Prop}

theorem pure (value : first) : (Pure.pure value : Action first).Respects same :=
  fun _ _ alike => ⟨rfl, alike⟩

theorem halt (cause : Halt) : (Action.halt cause : Action first).Respects same :=
  fun _ _ alike => ⟨rfl, alike⟩

theorem bind {action : Action first} {next : first → Action second}
    (before : action.Respects same) (after : ∀ value, (next value).Respects same) :
    (action >>= next).Respects same := by
  intro left right alike
  obtain ⟨result, middle⟩ := before left right alike
  rw [Action.run_bind, Action.run_bind]
  rcases leftRan : action.run left with ⟨outcome, leftAfter⟩
  rcases rightRan : action.run right with ⟨_, rightAfter⟩
  rw [leftRan, rightRan] at result middle
  cases result
  cases outcome with
  | error halt => exact ⟨rfl, middle⟩
  | ok value => exact after value leftAfter rightAfter middle

theorem orCleanUp {action : Action first} {cleanUp : Action Unit} (before : action.Respects same)
    (after : cleanUp.Respects same) : (action.orCleanUp cleanUp).Respects same := by
  intro left right alike
  obtain ⟨result, middle⟩ := before left right alike
  rw [Action.run_orCleanUp, Action.run_orCleanUp]
  rcases leftRan : action.run left with ⟨outcome, leftAfter⟩
  rcases rightRan : action.run right with ⟨_, rightAfter⟩
  rw [leftRan, rightRan] at result middle
  cases result
  match outcome with
  | .error (.panic cause) => exact ⟨rfl, (after leftAfter rightAfter middle).2⟩
  | .ok _ | .error (.abort _) | .error (.outOfMemory _) | .error (.fault _ _) => exact ⟨rfl, middle⟩

theorem get {next : State → Action first}
    (alike : ∀ left right, same left right → next left = next right)
    (after : ∀ state, (next state).Respects same) : (Action.get >>= next).Respects same := by
  intro left right both
  change ((next left).run left).1 = ((next right).run right).1 ∧
    same ((next left).run left).2 ((next right).run right).2
  rw [alike left right both]
  exact after right left right both

end Action.Respects

theorem exists_result_of_plain (platform : Platform) {value : Value}
    (plain : value.object? = none) :
    ∃ result, ∀ state, (encodeContents platform value).run state = (result, state) := by
  cases value with
  | object object => cases plain
  | int value =>
      cases platform with
      | wide => exact ⟨_, fun _ => rfl⟩
      | narrow =>
          simp only [encodeContents, encodePlatformInteger]
          split
          · exact ⟨_, fun _ => rfl⟩
          · exact ⟨_, fun _ => rfl⟩
  | string text =>
      simp only [encodeContents, checkedLength]
      split
      · exact ⟨_, fun _ => rfl⟩
      · exact ⟨_, fun _ => rfl⟩
  | _ => exact ⟨_, fun _ => rfl⟩

/-- States that are alike share the registry, and stay alike as handles are handed out. -/
structure State.Likeness (same : State → State → Prop) : Prop where
  registry : ∀ {left right : State}, same left right → left.registry = right.registry
  emit : ∀ event, (Action.emit event).Respects same
  retainObject : ∀ object, (retainObject object).Respects same
  setRegistry : ∀ registry, (setRegistry registry).Respects same

namespace State.Likeness

variable {same : State → State → Prop} (likeness : State.Likeness same)

include likeness

theorem wrapObject (object : Object) : (wrapObject object).Respects same := by
  refine .get (fun _ _ alike => by simp only [likeness.registry alike]) fun state => ?_
  dsimp only
  split
  · exact .halt _
  · refine .bind (likeness.setRegistry _) fun _ => .bind (likeness.emit _) fun _ => ?_
    split
    · exact .bind (likeness.retainObject object) fun _ => .pure _
    · exact .pure _

theorem encodeContents (platform : Platform) (value : Value) :
    (encodeContents platform value).Respects same := by
  cases kind : value.object? with
  | none =>
      obtain ⟨result, ran⟩ := exists_result_of_plain platform kind
      intro first second alike
      rw [ran, ran]
      exact ⟨rfl, alike⟩
  | some object =>
      obtain rfl := Value.eq_object_of_object? kind
      exact .bind (likeness.wrapObject object) fun _ => .pure _

theorem pack (platform : Platform) (value : Value) : (pack platform value).Respects same :=
  .bind (likeness.encodeContents platform value) fun _ =>
    .bind (likeness.emit _) fun _ => .pure _

theorem packAll (platform : Platform) (values : List Value) :
    (packAll platform values).Respects same := by
  induction values with
  | nil => exact .pure _
  | cons value rest ih => exact .bind (likeness.pack platform value) fun _ => .bind ih fun _ => .pure _

end State.Likeness

/-- Two states that differ at most in the log, in what was allocated and released, and in where an
allocator goes on. -/
structure State.SameButBooks (first second : State) : Prop where
  registry : first.registry = second.registry
  objects : first.objects = second.objects
  blocks : first.memory.blocks = second.memory.blocks

theorem State.SameButBooks.read? {first second : State} (same : first.SameButBooks second)
    (address : Address) (count : Nat) :
    first.memory.read? address count = second.memory.read? address count := by
  simp only [Memory.read?, Memory.tail?, same.blocks]

section Calls

open Boundary.Action

theorem emit_respects (event : Event) : (emit event).Respects State.SameButBooks :=
  fun _ _ same => ⟨rfl, same.registry, same.objects, same.blocks⟩

theorem abort_respects {result : Type} (cause : Abort) :
    (abort cause : Action result).Respects State.SameButBooks :=
  .bind (emit_respects _) fun _ => .halt _

theorem retainObject_respects (object : Object) :
    (retainObject object).Respects State.SameButBooks :=
  fun _ _ same => ⟨rfl, same.registry, congrArg (·.retain object) same.objects, same.blocks⟩

theorem dropObject_respects (object : Object) : (dropObject object).Respects State.SameButBooks :=
  fun _ _ same => ⟨rfl, same.registry, congrArg (·.drop object) same.objects, same.blocks⟩

theorem setRegistry_respects (registry : Registry) :
    (setRegistry registry).Respects State.SameButBooks :=
  fun _ _ same => ⟨rfl, rfl, same.objects, same.blocks⟩

theorem freeBlock_respects (address : Address) : (freeBlock address).Respects State.SameButBooks :=
  fun _ _ same => ⟨rfl, same.registry, same.objects, congrArg (·.erase address) same.blocks⟩

theorem State.SameButBooks.likeness : State.Likeness State.SameButBooks where
  registry same := same.registry
  emit := emit_respects
  retainObject := retainObject_respects
  setRegistry := setRegistry_respects

theorem releaseHandle_respects (handle : Handle) :
    (releaseHandle handle).Respects State.SameButBooks := by
  refine .get (fun _ _ same => by simp only [same.registry]) fun state => ?_
  dsimp only
  split
  · exact .pure _
  · split
    · exact .halt _
    · refine .bind (setRegistry_respects _) fun _ => .bind (emit_respects _) fun _ => ?_
      split
      · exact .bind (dropObject_respects _) fun _ => .pure _
      · exact .pure _

theorem resolveHandle_respects (handle : Handle) :
    (resolveHandle handle).Respects State.SameButBooks := by
  refine .get (fun _ _ same => by simp only [same.registry]) fun state => ?_
  split
  · exact .pure _
  · exact .bind (retainObject_respects _) fun _ => .pure _

theorem bufferBytes_respects (address : Address) (length : Int32) :
    (bufferBytes address length).Respects State.SameButBooks := by
  unfold bufferBytes
  split
  · exact .halt _
  · split
    · exact .halt _
    · refine .get (fun _ _ same => by simp only [same.read?]) fun state => ?_
      split
      · exact .pure _
      · exact .halt _

theorem decodeText_respects (length : Int32) (bytes : List UInt8) :
    (decodeText length bytes).Respects State.SameButBooks := by
  unfold decodeText
  split
  · exact .pure _
  · exact .bind (emit_respects _) fun _ => .pure _

theorem unpackHandle_respects (address : Address) :
    (unpackHandle address).Respects State.SameButBooks := by
  unfold unpackHandle
  split
  · exact abort_respects _
  · refine .bind (resolveHandle_respects _) fun found => ?_
    split
    · exact .pure _
    · exact abort_respects _

theorem unpackAs_respects (record : NativeRecord) (tag : Tag) :
    (unpackAs record tag).Respects State.SameButBooks := by
  cases tag with
  | string =>
      exact .bind (.bind (bufferBytes_respects _ _) fun _ => .bind (decodeText_respects _ _) fun _ =>
        .bind (freeBlock_respects _) fun _ => .pure _) fun _ => .pure _
  | ownedHandle => exact .bind (unpackHandle_respects _) fun _ => .pure _
  | object | any => exact abort_respects _
  | _ => exact .pure _

theorem unpack_respects (record : NativeRecord) : (unpack record).Respects State.SameButBooks := by
  unfold unpack
  split
  · exact abort_respects _
  · exact .bind (emit_respects _) fun _ => unpackAs_respects record _

theorem dropValue_respects (value : Option Value) : (dropValue value).Respects State.SameButBooks := by
  unfold dropValue
  split
  · exact dropObject_respects _
  · exact .pure _

theorem unpackAll_respects (records : List NativeRecord) :
    (unpackAll records).Respects State.SameButBooks := by
  induction records with
  | nil => exact .pure _
  | cons record rest ih =>
      exact .bind (unpack_respects record) fun value =>
        .bind (.orCleanUp ih (dropValue_respects value)) fun _ => .pure _

end Calls

namespace World

structure Alike (first second : World) : Prop where
  state : first.state.SameButBooks second.state
  held : first.held = second.held

variable {first second third after : World}

theorem Alike.refl (world : World) : world.Alike world := ⟨⟨rfl, rfl, rfl⟩, rfl⟩

theorem Alike.custody (alike : first.Alike second) : first.custody = second.custody := by
  rw [World.custody, World.custody, State.custody, State.custody, alike.state.registry,
    alike.state.objects, alike.held]

theorem Alike.permits {call : Call} (alike : first.Alike second) (permitted : first.Permits call) :
    second.Permits call := by
  cases call with
  | create content address => simpa only [Permits, alike.state.objects] using permitted
  | copy object | drop object | wrap object => simpa only [Permits, alike.held] using permitted
  | pack platform value | packAll platform values =>
      simpa only [Permits, alike.held] using permitted
  | release _ | resolve _ | unpack _ | unpackAll _ | native _ => exact permitted

theorem Alike.after? {result : Type} {action : Action result} {received : result → Multiset Object}
    (alike : first.Alike second) (respects : action.Respects State.SameButBooks)
    (performed : first.after? action received = some after) :
    ∃ later, second.after? action received = some later ∧ after.Alike later := by
  obtain ⟨ends, states⟩ := respects _ _ alike.state
  unfold World.after? at performed ⊢
  rcases firstRan : action.run first.state with ⟨outcome, firstAfter⟩
  rcases secondRan : action.run second.state with ⟨_, secondAfter⟩
  rw [firstRan, secondRan] at ends states
  rw [firstRan] at performed
  cases ends
  match outcome with
  | .ok value =>
      cases performed
      exact ⟨_, rfl, states, congrArg (received value + ·) alike.held⟩
  | .error (.panic cause) =>
      cases performed
      exact ⟨_, rfl, states, alike.held⟩
  | .error (.abort _) | .error (.outOfMemory _) | .error (.fault _ _) => cases performed

theorem Alike.perform? {call : Call} (alike : first.Alike second)
    (performed : first.perform? call = some after) :
    ∃ later, second.perform? call = some later ∧ after.Alike later := by
  have objects := alike.state.objects
  cases call with
  | create content address =>
      cases performed
      refine ⟨_, rfl, ⟨alike.state.registry, ?_, alike.state.blocks⟩, ?_⟩
      · exact congrArg (fun objects => (objects.create content address).2) objects
      · rw [objects, alike.held]
  | copy object =>
      cases performed
      exact ⟨_, rfl, ⟨alike.state.registry, congrArg (·.retain object) objects, alike.state.blocks⟩,
        congrArg (object ::ₘ ·) alike.held⟩
  | drop object =>
      cases performed
      exact ⟨_, rfl, ⟨alike.state.registry, congrArg (·.drop object) objects, alike.state.blocks⟩,
        congrArg (·.erase object) alike.held⟩
  | wrap object => exact alike.after? (State.SameButBooks.likeness.wrapObject object) performed
  | release handle => exact alike.after? (releaseHandle_respects handle) performed
  | resolve handle => exact alike.after? (resolveHandle_respects handle) performed
  | pack platform value =>
      exact alike.after? (State.SameButBooks.likeness.pack platform value) performed
  | packAll platform values =>
      exact alike.after? (State.SameButBooks.likeness.packAll platform values) performed
  | unpack record => exact alike.after? (unpack_respects record) performed
  | unpackAll records => exact alike.after? (unpackAll_respects records) performed
  | native blocks =>
      cases performed
      exact ⟨_, rfl, ⟨alike.state.registry, objects, rfl⟩, alike.held⟩

/-- Calls lead from one world to the other, as far as calls can tell: from any world like the first one,
a run leads to a world like the second. -/
def LeadsTo (first second : World) : Prop :=
  ∀ world, first.Alike world → ∃ history later, world.Run history later ∧ second.Alike later

namespace LeadsTo

theorem refl (world : World) : world.LeadsTo world :=
  fun _ alike => ⟨[], _, .refl, alike⟩

theorem trans (before : first.LeadsTo second) (after : second.LeadsTo third) :
    first.LeadsTo third := by
  intro world alike
  obtain ⟨earlier, middle, reached, still⟩ := before world alike
  obtain ⟨later, final, further, last⟩ := after middle still
  exact ⟨earlier ++ later, final, reached.trans further, last⟩

theorem call (call : Call) (permitted : first.Permits call)
    (performed : first.perform? call = some second) : first.LeadsTo second := by
  intro world alike
  obtain ⟨later, alsoPerformed, still⟩ := alike.perform? performed
  exact ⟨_, later, Run.refl.call call (alike.permits permitted) alsoPerformed, still⟩

theorem native (registry : first.registry = second.registry)
    (objects : first.state.objects = second.state.objects) (held : first.held = second.held) :
    first.LeadsTo second := by
  intro world alike
  refine ⟨_, _, Run.refl.call (.native second.state.memory.blocks) trivial rfl, ?_⟩
  exact ⟨⟨registry.symm.trans alike.state.registry, objects.symm.trans alike.state.objects, rfl⟩,
    held.symm.trans alike.held⟩

end LeadsTo

end World

end Boundary
