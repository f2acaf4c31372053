import Boundary.Bridge
import Boundary.Proofs.Likeness

/-!
The thread guard of a bridge. A call from another thread that has an object to encode does nothing
at all, and every other call goes as on the home thread. Main statement: whatever threads call in
what order, the registry becomes what the encodings of the home thread make of it.
-/

namespace Boundary

section Registry

def State.SameRegistry (first second : State) : Prop := first.registry = second.registry

/-- The state in which a program goes on after an action. It survives a panic, and nothing worse. -/
def Action.after? {result : Type} (action : Action result) (state : State) : Option State :=
  match action.run state with
  | (.ok _, after) => some after
  | (.error (.panic _), after) => some after
  | (.error _, _) => none

theorem Action.eq_of_after? {result : Type} {action : Action result} {state after : State}
    (survived : action.after? state = some after) : (action.run state).2 = after := by
  unfold Action.after? at survived
  split at survived
  · rename_i ran
    rw [ran]
    exact Option.some.inj survived
  · rename_i ran
    rw [ran]
    exact Option.some.inj survived
  · cases survived

theorem Action.Respects.after? {result : Type} {same : State → State → Prop} {action : Action result}
    (respects : action.Respects same) {left right leftAfter : State} (alike : same left right)
    (survived : action.after? left = some leftAfter) :
    ∃ rightAfter, action.after? right = some rightAfter ∧ same leftAfter rightAfter := by
  obtain ⟨ends, states⟩ := respects left right alike
  rw [Action.eq_of_after? survived] at states
  unfold Action.after? at survived ⊢
  rcases leftRan : action.run left with ⟨outcome, middle⟩
  rcases rightRan : action.run right with ⟨_, rightAfter⟩
  rw [leftRan, rightRan] at ends
  rw [leftRan] at survived
  rw [rightRan] at states
  cases ends
  -- The two runs have one outcome, so the program goes on after both or after neither.
  cases outcome with
  | ok value => exact ⟨rightAfter, rfl, states⟩
  | error halt =>
      cases halt with
      | panic cause => exact ⟨rightAfter, rfl, states⟩
      | abort _ | outOfMemory _ | fault _ _ => cases survived

theorem State.SameRegistry.likeness : State.Likeness State.SameRegistry where
  registry same := same
  emit _ _ _ same := ⟨rfl, same⟩
  retainObject _ _ _ same := ⟨rfl, same⟩
  setRegistry _ _ _ _ := ⟨rfl, rfl⟩

theorem packAll_registry_of_plain (platform : Platform) {values : List Value}
    (plain : ∀ value ∈ values, value.object? = none) (state : State) :
    ((packAll platform values).run state).2.registry = state.registry := by
  induction values generalizing state with
  | nil => rfl
  | cons value rest ih =>
      have first : ((pack platform value).run state).2.registry = state.registry :=
        congrArg Custody.registry
          (pack_custody_of_plain (plain value List.mem_cons_self) state 0)
      have others := ih fun other member => plain other (List.mem_cons_of_mem _ member)
      rw [run_packAll_cons]
      rcases outcome : (pack platform value).run state with ⟨halt | record, after⟩
      · rw [outcome] at first
        exact first
      · rw [outcome] at first
        have later := (others after).trans first
        rcases remaining : (packAll platform rest).run after with ⟨halt | records, final⟩
        · rw [remaining] at later
          simpa [remaining] using later
        · rw [remaining] at later
          simpa [remaining] using later

end Registry

namespace Bridge

def stops (bridge : Bridge) (thread : Thread) (value : Value) : Bool :=
  bridge.checks && value.needsWrap && !bridge.onHomeThread thread

section Guard

variable {bridge : Bridge} {thread : Thread}

theorem run_guard (value : Value) (state : State) :
    (bridge.guard thread value).run state =
      if bridge.stops thread value then (.error (.panic .offEngineThread), state)
      else (.ok (), state) := by
  unfold guard stops
  split <;> rfl

theorem run_guardAll (values : List Value) (state : State) :
    (bridge.guardAll thread values).run state =
      if values.any (bridge.stops thread) then (.error (.panic .offEngineThread), state)
      else (.ok (), state) := by
  induction values with
  | nil => rfl
  | cons value rest ih =>
      rw [guardAll, Action.run_bind, run_guard]
      by_cases stopped : bridge.stops thread value = true
      · simp [stopped]
      · simp [stopped, ih]

theorem run_pack (value : Value) (state : State) :
    (bridge.pack thread value).run state =
      if bridge.stops thread value then (.error (.panic .offEngineThread), state)
      else (Boundary.pack bridge.platform value).run state := by
  rw [pack, Action.run_bind, run_guard]
  by_cases stopped : bridge.stops thread value = true
  · simp [stopped]
  · simp [stopped]

theorem run_packAll (values : List Value) (state : State) :
    (bridge.packAll thread values).run state =
      if values.any (bridge.stops thread) then (.error (.panic .offEngineThread), state)
      else (Boundary.packAll bridge.platform values).run state := by
  rw [packAll, Action.run_bind, run_guardAll]
  by_cases stopped : values.any (bridge.stops thread) = true
  · simp [stopped]
  · simp [stopped]

theorem pack_of_passes {value : Value} (passes : bridge.stops thread value = false) :
    bridge.pack thread value = Boundary.pack bridge.platform value := by
  funext state
  exact (run_pack value state).trans (if_neg (by simp [passes]))

theorem packAll_of_passes {values : List Value}
    (passes : ∀ value ∈ values, bridge.stops thread value = false) :
    bridge.packAll thread values = Boundary.packAll bridge.platform values := by
  funext state
  refine (run_packAll values state).trans (if_neg ?_)
  rw [List.any_eq_true]
  rintro ⟨value, member, stopped⟩
  rw [passes value member] at stopped
  cases stopped

theorem stops_home (bridge : Bridge) (value : Value) :
    bridge.stops bridge.home value = false := by
  simp [stops, onHomeThread]

theorem stops_of_unchecked (unchecked : bridge.checks = false) (thread : Thread) (value : Value) :
    bridge.stops thread value = false := by
  simp [stops, unchecked]

theorem stops_of_foreign (checked : bridge.checks = true) (foreign : thread ≠ bridge.home)
    (value : Value) : bridge.stops thread value = value.object?.isSome := by
  cases value <;> simp [stops, checked, onHomeThread, foreign, Value.needsWrap, Value.object?]

end Guard

inductive Request where
  | pack (value : Value)
  | packAll (values : List Value)
  | unpack (record : NativeRecord)
  | unpackAll (records : List NativeRecord)

def Request.encodes : Request → Bool
  | pack _ | packAll _ => true
  | unpack _ | unpackAll _ => false

def serve (bridge : Bridge) (thread : Thread) : Request → Action Unit
  | .pack value => do
    let _ ← bridge.pack thread value
  | .packAll values => do
    let _ ← bridge.packAll thread values
  | .unpack record => do
    let _ ← Boundary.unpack record
  | .unpackAll records => do
    let _ ← Boundary.unpackAll records

def serveAll? (bridge : Bridge) : List (Thread × Request) → State → Option State
  | [], state => some state
  | (thread, request) :: rest, state =>
    ((bridge.serve thread request).after? state).bind (bridge.serveAll? rest)

section Calls

variable {bridge : Bridge} {thread : Thread}

theorem guard_respects_registry (value : Value) :
    (bridge.guard thread value).Respects State.SameRegistry := by
  unfold guard
  split
  · exact .halt _
  · exact .pure _

theorem guardAll_respects_registry (values : List Value) :
    (bridge.guardAll thread values).Respects State.SameRegistry := by
  induction values with
  | nil => exact .pure _
  | cons value rest ih => exact .bind (guard_respects_registry value) fun _ => ih

theorem serve_respects_registry (thread : Thread) {request : Request}
    (encodes : request.encodes = true) :
    (bridge.serve thread request).Respects State.SameRegistry := by
  cases request with
  | pack value =>
      exact .bind (.bind (guard_respects_registry value) fun _ =>
        State.SameRegistry.likeness.pack _ value) fun _ => .pure _
  | packAll values =>
      exact .bind (.bind (guardAll_respects_registry values) fun _ =>
        State.SameRegistry.likeness.packAll _ values) fun _ => .pure _
  | unpack _ | unpackAll _ => cases encodes

theorem registry_of_discarded {result : Type} (action : Action result) (state : State) :
    ((do let _ ← action : Action Unit).run state).2.registry =
      (action.run state).2.registry := by
  rw [Action.run_bind]
  rcases action.run state with ⟨halt | value, after⟩
  · rfl
  · rfl

theorem serve_registry_of_decoding {request : Request} (decodes : request.encodes = false)
    (state : State) : ((bridge.serve thread request).run state).2.registry = state.registry := by
  cases request with
  | pack _ | packAll _ => cases decodes
  | unpack record =>
      rw [serve, registry_of_discarded]
      exact unpack_registry record state
  | unpackAll records =>
      rw [serve, registry_of_discarded]
      exact unpackAll_registry records state

theorem serve_registry_of_foreign (checked : bridge.checks = true)
    (foreign : thread ≠ bridge.home) (request : Request) (state : State) :
    ((bridge.serve thread request).run state).2.registry = state.registry := by
  have plain {value : Value} (passed : ¬ bridge.stops thread value = true) :
      value.object? = none := by
    rwa [stops_of_foreign checked foreign, Bool.not_eq_true, Option.isSome_eq_false_iff,
      Option.isNone_iff_eq_none] at passed
  cases request with
  | pack value =>
      rw [serve, registry_of_discarded, run_pack]
      split
      · rfl
      · rename_i passed
        exact congrArg Custody.registry (pack_custody_of_plain (plain passed) state 0)
  | packAll values =>
      rw [serve, registry_of_discarded, run_packAll]
      split
      · rfl
      · rename_i passed
        apply packAll_registry_of_plain
        intro value member
        exact plain fun stopped => passed (List.any_eq_true.2 ⟨value, member, stopped⟩)
  | unpack record => exact serve_registry_of_decoding rfl state
  | unpackAll records => exact serve_registry_of_decoding rfl state

/-- Of calls from any threads, those that encode on the home thread lead to the registry alone. -/
theorem serveAll?_registry (checked : bridge.checks = true) {calls : List (Thread × Request)}
    {first second after : State} (same : first.registry = second.registry)
    (served : bridge.serveAll? calls first = some after) :
    ∃ alone, bridge.serveAll?
        (calls.filter fun call => decide (call.1 = bridge.home) && call.2.encodes) second =
          some alone ∧
      alone.registry = after.registry := by
  induction calls generalizing first second with
  | nil =>
      cases served
      exact ⟨second, rfl, same.symm⟩
  | cons call rest ih =>
      obtain ⟨thread, request⟩ := call
      obtain ⟨middle, survived, later⟩ := Option.bind_eq_some_iff.1 served
      by_cases kept : thread = bridge.home ∧ request.encodes = true
      · -- The call is in both runs, so it ends in the same way and with the same registry.
        obtain ⟨other, alsoSurvived, registry⟩ :=
          (serve_respects_registry thread kept.2).after? same survived
        rw [List.filter_cons_of_pos (by simpa using kept), serveAll?, alsoSurvived,
          Option.bind_some]
        exact ih registry later
      · -- The call is only in the first run, where it leaves the registry alone.
        have unchanged : ((bridge.serve thread request).run first).2.registry = first.registry := by
          by_cases encodes : request.encodes = true
          · have foreign : thread ≠ bridge.home := fun home => kept ⟨home, encodes⟩
            exact serve_registry_of_foreign checked foreign request first
          · exact serve_registry_of_decoding (Bool.not_eq_true _ ▸ encodes) first
        rw [Action.eq_of_after? survived] at unchanged
        rw [List.filter_cons_of_neg (by simpa using kept)]
        exact ih (unchanged.trans same) later

end Calls

end Bridge

/-- With checks, a call from another thread that has an object anywhere in its values panics and
does nothing, and one that has none goes as on the home thread; no call from another thread changes
the registry, so that calls from all threads in any order lead to the registry that the encodings of
the home thread lead to. Without checks the thread of a call is of no account. -/
theorem guard_all_or_nothing (bridge : Bridge) (state : State) :
    (bridge.checks = true → ∀ thread, thread ≠ bridge.home →
      (∀ values object, .object object ∈ values →
        (bridge.packAll thread values).run state = (.error (.panic .offEngineThread), state)) ∧
      (∀ object, (bridge.pack thread (.object object)).run state =
        (.error (.panic .offEngineThread), state)) ∧
      (∀ values : List Value, (∀ object, .object object ∉ values) →
        (bridge.packAll thread values).run state =
            (bridge.packAll bridge.home values).run state ∧
          ((bridge.packAll thread values).run state).2.registry = state.registry) ∧
      (∀ value : Value, (∀ object, value ≠ .object object) →
        (bridge.pack thread value).run state = (bridge.pack bridge.home value).run state ∧
          ((bridge.pack thread value).run state).2.registry = state.registry) ∧
      ∀ request,
        ((bridge.serve thread request).run state).2.registry = state.registry) ∧
    (bridge.checks = true → ∀ calls after, bridge.serveAll? calls state = some after →
      ∃ alone, bridge.serveAll?
          (calls.filter fun call => decide (call.1 = bridge.home) && call.2.encodes) state =
            some alone ∧
        alone.registry = after.registry) ∧
    (bridge.checks = false → ∀ here there,
      (∀ value, bridge.pack here value = bridge.pack there value) ∧
        ∀ values, bridge.packAll here values = bridge.packAll there values) := by
  refine ⟨?_, fun checked _ _ served => Bridge.serveAll?_registry checked rfl served, ?_⟩
  · intro checked thread foreign
    have stopped := Bridge.stops_of_foreign checked foreign
    have plain_of_ne {value : Value} (objectless : ∀ object, value ≠ .object object) :
        value.object? = none := by
      cases kind : value.object? with
      | none => rfl
      | some object => exact absurd (Value.eq_object_of_object? kind) (objectless object)
    refine ⟨?_, ?_, ?_, ?_, fun request =>
      Bridge.serve_registry_of_foreign checked foreign request state⟩
    · intro values object member
      rw [Bridge.run_packAll, if_pos]
      exact List.any_eq_true.2 ⟨_, member, by rw [stopped, Value.object?, Option.isSome_some]⟩
    · intro object
      rw [Bridge.run_pack, if_pos]
      rw [stopped, Value.object?, Option.isSome_some]
    · intro values objectless
      have plain : ∀ value ∈ values, value.object? = none := by
        intro value member
        apply plain_of_ne
        rintro object rfl
        exact objectless object member
      have passes : ∀ value ∈ values, bridge.stops thread value = false := by
        intro value member
        rw [stopped, plain value member, Option.isSome_none]
      rw [Bridge.packAll_of_passes passes, Bridge.packAll_of_passes fun value _ =>
        bridge.stops_home value]
      exact ⟨rfl, packAll_registry_of_plain bridge.platform plain state⟩
    · intro value objectless
      have plain := plain_of_ne objectless
      have passes : bridge.stops thread value = false := by
        rw [stopped, plain, Option.isSome_none]
      rw [Bridge.pack_of_passes passes, Bridge.pack_of_passes (bridge.stops_home value)]
      exact ⟨rfl, congrArg Custody.registry (pack_custody_of_plain plain state 0)⟩
  · intro unchecked here there
    have passes := Bridge.stops_of_unchecked unchecked
    constructor
    · intro value
      rw [Bridge.pack_of_passes (passes here value), Bridge.pack_of_passes (passes there value)]
    · intro values
      rw [Bridge.packAll_of_passes fun value _ => passes here value,
        Bridge.packAll_of_passes fun value _ => passes there value]

namespace Sample

def guarded : Bridge := ⟨.narrow, true, 0⟩

def mixedBatch : List Value := [.object World.firstObject, .int 0x80000000, .string "late"]

def mixedCalls : List (Thread × Bridge.Request) := [
  (0, .pack (.object World.firstObject)),
  (1, .packAll mixedBatch),
  (1, .pack (.int 7)),
  (1, .unpack ⟨9, .ofAddress 1, 0⟩),
  (0, .packAll [.object World.firstObject, .int 0x80000000])]

end Sample

theorem guard_stops_foreign_batch :
    ∃ after, Sample.guarded.serveAll? Sample.mixedCalls {} = some after ∧
      after.registry.count .first = 2 ∧
      (Sample.guarded.packAll 1 Sample.mixedBatch).run after =
        (.error (.panic .offEngineThread), after) ∧
      ∃ alone, Sample.guarded.serveAll?
          [(0, .pack (.object World.firstObject)),
            (0, .packAll [.object World.firstObject, .int 0x80000000])] {} = some alone ∧
        alone.registry = after.registry := by
  have checked : (Sample.guarded.serveAll? Sample.mixedCalls {}).any (fun after =>
      decide (after.registry.count .first = 2)) = true := by decide +kernel
  obtain ⟨after, served, counted⟩ := (Option.any_eq_true _ _).1 checked
  obtain ⟨foreign, _⟩ := guard_all_or_nothing Sample.guarded after
  obtain ⟨batch, _⟩ := foreign rfl 1 (by decide)
  obtain ⟨_, calls, _⟩ := guard_all_or_nothing Sample.guarded {}
  exact ⟨after, served, of_decide_eq_true counted,
    batch Sample.mixedBatch World.firstObject List.mem_cons_self, calls rfl _ after served⟩

end Boundary
