import Boundary.Proofs.Marshalling

/-!
A program at work on the boundary. It creates and drops objects and calls the library in any order,
and native code works on its memory in between. A call that panics is survived; one that aborts, or
reads outside native memory, is the last. Main statement: custody stays sound in every run.
-/

namespace Boundary

inductive Call where
  | create (content : Content) (address : Address)
  | copy (object : Object)
  | drop (object : Object)
  | wrap (object : Object)
  | release (handle : Handle)
  | resolve (handle : Handle)
  | pack (platform : Platform) (value : Value)
  | packAll (platform : Platform) (values : List Value)
  | unpack (record : NativeRecord)
  | unpackAll (records : List NativeRecord)
  /-- Native code leaves its memory with these blocks. -/
  | native (blocks : Std.TreeMap Address (List UInt8))

structure World where
  state : State
  held : Multiset Object

namespace World

def initial : World := ⟨{}, 0⟩

def custody (world : World) : Custody := world.state.custody world.held

abbrev registry (world : World) : Registry := world.state.registry

/-- A program passes objects that it refers to, and an allocator gives out no address in use. -/
def Permits (world : World) : Call → Prop
  | .create _ address => world.state.objects.cells[address]? = none
  | .copy object | .drop object | .wrap object => object ∈ world.held
  | .pack _ value => ∀ object ∈ value.object?, object ∈ world.held
  | .packAll _ values => ∀ value ∈ values, ∀ object ∈ value.object?, object ∈ world.held
  | .release _ | .resolve _ | .unpack _ | .unpackAll _ | .native _ => True

def after? {result : Type} (world : World) (action : Action result)
    (received : result → Multiset Object) : Option World :=
  match action.run world.state with
  | (.ok value, after) => some ⟨after, received value + world.held⟩
  | (.error (.panic _), after) => some ⟨after, world.held⟩
  | (.error _, _) => none

/-- The world after a call; none if the process has ended. -/
def perform? (world : World) : Call → Option World
  | .create content address =>
    let (object, objects) := world.state.objects.create content address
    some ⟨{ world.state with objects := objects }, object ::ₘ world.held⟩
  | .copy object =>
    let objects := world.state.objects.retain object
    some ⟨{ world.state with objects := objects }, object ::ₘ world.held⟩
  | .drop object =>
    let objects := world.state.objects.drop object
    some ⟨{ world.state with objects := objects }, world.held.erase object⟩
  | .wrap object => world.after? (wrapObject object) fun _ => 0
  | .release handle => world.after? (releaseHandle handle) fun _ => 0
  | .resolve handle => world.after? (resolveHandle handle) fun found => ↑found.toList
  | .pack platform value => world.after? (Boundary.pack platform value) fun _ => 0
  | .packAll platform values => world.after? (Boundary.packAll platform values) fun _ => 0
  | .unpack record => world.after? (Boundary.unpack record) fun value => referencesIn [value]
  | .unpackAll records => world.after? (Boundary.unpackAll records) referencesIn
  | .native blocks =>
    let memory := { world.state.memory with blocks := blocks }
    some ⟨{ world.state with memory := memory }, world.held⟩

def exchanges (world : World) : Call → List Exchange
  | .wrap object => wrapExchanges object world.state
  | .release handle => releaseExchanges handle world.state
  | .pack _ value => value.exchanges world.state
  | .packAll platform values => batchExchanges platform values world.state
  | .create _ _ | .copy _ | .drop _ | .resolve _ | .unpack _ | .unpackAll _ | .native _ => []

/-- Any number of calls one after the other, with all they exchanged. -/
inductive Run (start : World) : List Exchange → World → Prop
  | refl : Run start [] start
  | call {history : List Exchange} {world after : World} (call : Call) :
      Run start history world → world.Permits call → world.perform? call = some after →
      Run start (history ++ world.exchanges call) after

theorem Run.trans {first second third : World} {earlier later : List Exchange}
    (before : first.Run earlier second) (after : second.Run later third) :
    first.Run (earlier ++ later) third := by
  induction after with
  | refl => simpa using before
  | call call _ permitted performed ih => simpa using ih.call call permitted performed

instance (world : World) : (call : Call) → Decidable (world.Permits call)
  | .create _ address => inferInstanceAs (Decidable (world.state.objects.cells[address]? = none))
  | .copy object | .drop object | .wrap object =>
    inferInstanceAs (Decidable (object ∈ world.held))
  | .pack _ value =>
    inferInstanceAs (Decidable (∀ object ∈ value.object?, object ∈ world.held))
  | .packAll _ values =>
    inferInstanceAs
      (Decidable (∀ value ∈ values, ∀ object ∈ value.object?, object ∈ world.held))
  | .release _ | .resolve _ | .unpack _ | .unpackAll _ | .native _ => isTrue trivial

def follow? (world : World) : List Call → Option (List Exchange × World)
  | [] => some ([], world)
  | call :: rest =>
    if world.Permits call then
      match world.perform? call with
      | none => none
      | some after => (after.follow? rest).map fun result =>
          (world.exchanges call ++ result.1, result.2)
    else
      none

theorem follow?_run {world after : World} {calls : List Call} {history : List Exchange}
    (followed : world.follow? calls = some (history, after)) : world.Run history after := by
  induction calls generalizing world history with
  | nil =>
      cases followed
      exact .refl
  | cons call rest ih =>
      rw [follow?] at followed
      split at followed
      · rename_i permitted
        split at followed
        · cases followed
        · rename_i middle performed
          obtain ⟨⟨later, last⟩, remaining, same⟩ := Option.map_eq_some_iff.1 followed
          cases same
          have first : world.Run (world.exchanges call) middle := by
            simpa using Run.refl.call call permitted performed
          exact first.trans (ih remaining)
      · cases followed

theorem custody_of_after? {result : Type} {world after : World} {action : Action result}
    (performed : world.after? action (fun _ => 0) = some after) :
    after.custody = (action.run world.state).2.custody world.held := by
  unfold after? at performed
  split at performed
  · rename_i ran
    cases performed
    simp [custody, ran]
  · rename_i ran
    cases performed
    simp [custody, ran]
  · cases performed

theorem perform?_moves {world after : World} {call : Call} (sound : world.custody.Sound)
    (permitted : world.Permits call) (performed : world.perform? call = some after) :
    world.custody.Moves (world.exchanges call) after.custody := by
  cases call with
  | create content address =>
      cases performed
      have move : world.custody.Move _ _ := .create content address permitted
      exact move.moves
  | copy object =>
      cases performed
      have move : world.custody.Move _ _ := .copy permitted
      exact move.moves
  | drop object =>
      cases performed
      have move : world.custody.Move _ _ := .drop permitted
      exact move.moves
  | wrap object =>
      rw [custody_of_after? performed]
      exact wrapObject_moves sound permitted
  | release handle =>
      rw [custody_of_after? performed]
      exact releaseHandle_moves sound handle
  | resolve handle =>
      have moves : (world.state.custody world.held).Moves _ _ := resolveHandle_moves handle
      simp only [perform?, after?, run_resolveHandle] at performed
      cases performed
      rw [run_resolveHandle] at moves
      exact moves
  | pack platform value =>
      rw [custody_of_after? performed]
      exact pack_moves sound permitted
  | packAll platform values =>
      rw [custody_of_after? performed]
      exact packAll_moves sound permitted
  | unpack record =>
      simp only [perform?, after?] at performed
      split at performed
      · rename_i ran
        cases performed
        exact unpack_moves world.held ran
      · rename_i later ran
        cases performed
        have kept : later.custody world.held = world.custody :=
          unpack_error_custody world.held ran
        change world.custody.Moves [] (later.custody world.held)
        rw [kept]
        exact .refl
      · cases performed
  | unpackAll records =>
      simp only [perform?, after?] at performed
      split at performed
      · rename_i ran
        cases performed
        exact unpackAll_moves ran
      · rename_i ran
        cases performed
        exact unpackAll_panic_moves ran
      · cases performed
  | native blocks =>
      cases performed
      exact .refl

theorem exists_run (calls : List Call) {history : List Exchange} {check : World → Bool}
    (followed : (initial.follow? calls).map (fun result => (result.1, check result.2)) =
      some (history, true)) :
    ∃ world, initial.Run history world ∧ check world = true := by
  obtain ⟨⟨_, world⟩, found, same⟩ := Option.map_eq_some_iff.1 followed
  simp only [Prod.mk.injEq] at same
  obtain ⟨rfl, checked⟩ := same
  exact ⟨world, follow?_run found, checked⟩

namespace Run

theorem moves {start world : World} {history : List Exchange} (run : start.Run history world)
    (sound : start.custody.Sound) : start.custody.Moves history world.custody := by
  induction run with
  | refl => exact .refl
  | call call _ permitted performed ih =>
      exact ih.trans (perform?_moves (sound.moves ih) permitted performed)

theorem sound {world : World} {history : List Exchange} (run : initial.Run history world) :
    world.custody.Sound :=
  Custody.Sound.empty.moves (run.moves .empty)

end Run

def firstObject : Object := ⟨0, 16, .number 5⟩

def secondObject : Object := ⟨1, 16, .text "next"⟩

def second : Handle := ⟨2, by decide, by decide⟩

def third : Handle := ⟨3, by decide, by decide⟩

def addressReuse : List Call := [
  .create firstObject.content 16,
  .wrap firstObject,
  .packAll .wide [.int 7, .object firstObject],
  .release .first,
  .release .first,
  .wrap firstObject,
  .drop firstObject,
  .release second,
  .create secondObject.content 16,
  .pack .narrow (.object secondObject)]

def reuseHistory : List Exchange := [
  .issued firstObject .first,
  .shared firstObject .first,
  .returned .first,
  .closed .first,
  .issued firstObject second,
  .closed second,
  .issued secondObject third]

end World

end Boundary
