import Boundary.Proofs.Handles.Identity
import Boundary.Proofs.Registry.Undo

/-!
The end of the handle numbers. Registrations are numbered in turn from one, and the counter stops at
the last number of a machine word. Main statement: from then on an object that is not registered is
refused, each time anew and without any effect, while all else goes on.
-/

namespace Boundary

def Exchange.registered? : Exchange → Option Handle
  | issued _ handle => some handle
  | shared _ _ | returned _ | closed _ => none

def registrations (history : List Exchange) : List Handle :=
  history.filterMap Exchange.registered?

theorem registrations_append (earlier later : List Exchange) :
    registrations (earlier ++ later) = registrations earlier ++ registrations later := by
  simp [registrations]

/-- The registrations of a history take the numbers from where the counter stood to where it stands
after. -/
structure Registry.Numbers (before : Registry) (history : List Exchange) (after : Registry) :
    Prop where
  inTurn : (registrations history).map Handle.number =
    List.range' before.next.number (registrations history).length
  next : after.next.number = before.next.number + (registrations history).length

namespace Registry.Numbers

theorem nil {before after : Registry} (same : after.next = before.next) : before.Numbers [] after :=
  ⟨rfl, by rw [same]; rfl⟩

theorem trans {first second third : Registry} {earlier later : List Exchange}
    (before : first.Numbers earlier second) (after : second.Numbers later third) :
    first.Numbers (earlier ++ later) third where
  inTurn := by
    rw [registrations_append, List.map_append, before.inTurn, after.inTurn, before.next,
      List.length_append, List.range'_append_1]
  next := by
    rw [after.next, before.next, registrations_append, List.length_append, Nat.add_assoc]

theorem nil_of_exhausted {before after : Registry} {history : List Exchange}
    (numbers : before.Numbers history after) (exhausted : before.next.number = UInt64.size - 1) :
    registrations history = [] ∧ after.next = before.next := by
  have bound := after.next.inRange
  have next := numbers.next
  have none : (registrations history).length = 0 := by omega
  exact ⟨List.length_eq_zero_iff.1 none, Handle.ext_number (by omega)⟩

end Registry.Numbers

namespace Custody

variable {start custody after : Custody} {history exchanges : List Exchange}

theorem Move.numbers (move : custody.Move exchanges after) :
    custody.registry.Numbers exchanges after.registry := by
  cases move with
  | issue _ _ successor => exact ⟨rfl, Handle.number_of_next? successor⟩
  | share _ _ | lower _ _ | close _ _ => exact ⟨rfl, rfl⟩
  | create _ _ _ | copy _ | drop _ | take _ => exact .nil rfl

theorem Moves.numbers (moves : start.Moves history custody) :
    start.registry.Numbers history custody.registry := by
  induction moves with
  | refl => exact .nil rfl
  | tail _ move ih => exact ih.trans move.numbers

theorem Move.issued_of_resolve? (move : custody.Move exchanges after) {handle : Handle}
    {object : Object} (resolved : after.registry.resolve? handle = some object) :
    custody.registry.resolve? handle = some object ∨ .issued object handle ∈ exchanges := by
  cases move with
  | issue _ _ _ =>
      rw [Registry.resolve?_register] at resolved
      split at resolved
      · rename_i here
        cases here
        cases resolved
        exact .inr List.mem_cons_self
      · exact .inl resolved
  | @share _ _ entry _ known =>
      have same : entry.raise.object = entry.object := rfl
      rw [Registry.resolve?_withEntry (Registry.entry?_of_registration? known) same] at resolved
      exact .inl resolved
  | @lower _ entry found _ =>
      have same : { entry with count := entry.count - 1 }.object = entry.object := rfl
      rw [Registry.resolve?_withEntry found same] at resolved
      exact .inl resolved
  | close _ _ =>
      rw [Registry.resolve?_remove] at resolved
      split at resolved
      · cases resolved
      · exact .inl resolved
  | create _ _ _ | copy _ | drop _ | take _ => exact .inl resolved

theorem Moves.issued_of_resolve? (moves : start.Moves history custody)
    (unused : ∀ handle, start.registry.resolve? handle = none) {handle : Handle} {object : Object}
    (resolved : custody.registry.resolve? handle = some object) :
    .issued object handle ∈ history := by
  induction moves with
  | refl =>
      rw [unused] at resolved
      cases resolved
  | tail _ move ih =>
      rcases move.issued_of_resolve? resolved with old | new
      · exact List.mem_append_left _ (ih old)
      · exact List.mem_append_right _ new

theorem Moves.issued_of_handedOut (sound : start.Sound) (moves : start.Moves history custody)
    (unused : ∀ handle, start.registry.resolve? handle = none) {handle : Handle} {object : Object}
    (wrapped : (object, handle) ∈ handedOut history) : .issued object handle ∈ history := by
  induction moves with
  | refl => cases wrapped
  | tail earlier move ih =>
      rw [handedOut_append, List.mem_append] at wrapped
      rcases wrapped with old | new
      · exact List.mem_append_left _ (ih old)
      · have resolved := move.resolve?_of_handedOut (sound.moves earlier) new
        exact (earlier.tail move).issued_of_resolve? unused resolved

end Custody

section Wrap

variable {state : State} {object : Object}

theorem wrapObject_error {halt : Halt} {after : State}
    (ran : (wrapObject object).run state = (.error halt, after)) :
    state.registry.wrap? object = none ∧
      halt = .panic (.handlesExhausted (UInt64.size - 1)) ∧ after = state := by
  cases wrapped : state.registry.wrap? object with
  | none =>
      obtain ⟨_, last⟩ := Registry.wrap?_eq_none_iff.1 wrapped
      rw [run_wrapObject_of_refused wrapped, last] at ran
      cases ran
      exact ⟨rfl, rfl, rfl⟩
  | some pair =>
      obtain ⟨handle, registry⟩ := pair
      obtain ⟨_, completed, _⟩ := wrapObject_of_wrap? wrapped
      rw [completed] at ran
      cases ran

variable {held : Multiset Object} (sound : (state.custody held).Sound)

include sound

theorem registration?_eq_none_iff_unregistered (owned : object ∈ held) :
    state.registry.registration? object = none ↔
      ∀ handle, state.registry.resolve? handle ≠ some object := by
  constructor
  · intro unknown handle resolved
    obtain ⟨entry, found, rfl⟩ := (Registry.resolve?_eq_some_iff _ _ _).1 resolved
    have known := (sound.registry.registration?_eq_some_iff entry.object handle entry).2
      ⟨found, rfl⟩
    rw [State.custody, unknown] at known
    cases known
  · exact sound.unknown_of_unregistered owned

theorem run_wrapObject_refused_iff (owned : object ∈ held) :
    (wrapObject object).run state =
        (.error (.panic (.handlesExhausted (UInt64.size - 1))), state) ↔
      (∀ handle, state.registry.resolve? handle ≠ some object) ∧
        state.registry.next.number = UInt64.size - 1 := by
  rw [← registration?_eq_none_iff_unregistered sound owned, ← Registry.wrap?_eq_none_iff]
  constructor
  · intro ran
    exact (wrapObject_error ran).1
  · intro refused
    obtain ⟨_, last⟩ := Registry.wrap?_eq_none_iff.1 refused
    rw [run_wrapObject_of_refused refused, last]

theorem run_wrapObject_of_registered {handle : Handle}
    (registered : state.registry.resolve? handle = some object) :
    ∃ after, (wrapObject object).run state = (.ok handle, after) ∧
      (∀ other, after.registry.resolve? other = state.registry.resolve? other) ∧
      after.registry.count handle =
        min (state.registry.count handle + 1) Entry.greatestCount := by
  obtain ⟨entry, found, rfl⟩ := (Registry.resolve?_eq_some_iff _ _ _).1 registered
  have known := (sound.registry.registration?_eq_some_iff entry.object handle entry).2 ⟨found, rfl⟩
  refine ⟨_, run_wrapObject_of_known known, Registry.resolve?_withEntry found rfl, ?_⟩
  dsimp only
  rw [Registry.count_withEntry, if_pos rfl, Registry.count_of_found found]
  rfl

end Wrap

/-- In every run the handles of new registrations are numbered in turn from one, fewer than the
greatest machine word, and each wrap returns the one that was issued for its object. An object that the
program holds is refused exactly if it is not registered and the counter stands at the greatest machine
word. The refusal leaves everything as it was. Whatever the program does afterwards, the counter stays and
no handle is issued: objects that are not registered are refused again, those that are get their handle
and count, and handles in use can be taken back. -/
theorem exhaustion_leaves_registry_intact {history : List Exchange} {world : World}
    (run : World.initial.Run history world) :
    (registrations history).map Handle.number =
        List.range' 1 (registrations history).length ∧
      world.registry.next.number = 1 + (registrations history).length ∧
      1 + (registrations history).length < UInt64.size ∧
      (∀ object handle, (object, handle) ∈ handedOut history → .issued object handle ∈ history) ∧
      (∀ object ∈ world.held,
        ((∃ halt, ((wrapObject object).run world.state).1 = .error halt) ↔
          (∀ handle, world.registry.resolve? handle ≠ some object) ∧
            world.registry.next.number = UInt64.size - 1)) ∧
      ∀ object halt after, (wrapObject object).run world.state = (.error halt, after) →
        halt = .panic (.handlesExhausted (UInt64.size - 1)) ∧ after = world.state ∧
        ∀ later final, world.Run later final →
          final.registry.next = world.registry.next ∧ registrations later = [] ∧
          (∀ other ∈ final.held, (∀ handle, final.registry.resolve? handle ≠ some other) →
            (wrapObject other).run final.state =
              (.error (.panic (.handlesExhausted (UInt64.size - 1))), final.state)) ∧
          (∀ other handle, final.registry.resolve? handle = some other →
            ∃ raised, (wrapObject other).run final.state = (.ok handle, raised) ∧
              (∀ queried, raised.registry.resolve? queried = final.registry.resolve? queried) ∧
              raised.registry.count handle =
                min (final.registry.count handle + 1) Entry.greatestCount) ∧
          ∀ handle, ((releaseHandle handle).run final.state).1 =
            .ok (final.registry.resolve? handle).isSome := by
  have moves := run.moves .empty
  have sound := run.sound
  have numbers : Registry.Numbers {} history world.registry := moves.numbers
  have next : world.registry.next.number = 1 + (registrations history).length := numbers.next
  refine ⟨numbers.inTurn, next, next ▸ world.registry.next.inRange, ?_, ?_, ?_⟩
  · intro object handle wrapped
    exact moves.issued_of_handedOut .empty (fun _ => rfl) wrapped
  · intro object held
    rw [← run_wrapObject_refused_iff sound held]
    constructor
    · rintro ⟨halt, refused⟩
      obtain ⟨_, cause, same⟩ := wrapObject_error (Prod.ext refused rfl)
      exact Prod.ext (by rw [refused, cause]) same
    · intro ran
      exact ⟨_, by rw [ran]⟩
  · intro object halt after ran
    obtain ⟨refused, cause, same⟩ := wrapObject_error ran
    obtain ⟨_, exhausted⟩ := Registry.wrap?_eq_none_iff.1 refused
    refine ⟨cause, same, ?_⟩
    intro later final continued
    have further := continued.moves sound
    have finalSound := sound.moves further
    obtain ⟨none, stays⟩ := further.numbers.nil_of_exhausted exhausted
    refine ⟨stays, none, ?_, ?_, releaseHandle_result finalSound⟩
    · intro other held unregistered
      apply (run_wrapObject_refused_iff finalSound held).2
      refine ⟨unregistered, ?_⟩
      rw [← exhausted]
      exact congrArg Handle.number stays
    · intro other handle registered
      exact run_wrapObject_of_registered finalSound registered

namespace World

variable {world : World} {object : Object}

theorem perform?_wrap_of_ok {handle : Handle} {after : State}
    (ran : (wrapObject object).run world.state = (.ok handle, after)) :
    world.perform? (.wrap object) = some ⟨after, world.held⟩ := by
  simp [perform?, after?, ran]

theorem perform?_release_of_ok {handle : Handle} {known : Bool} {after : State}
    (ran : (releaseHandle handle).run world.state = (.ok known, after)) :
    world.perform? (.release handle) = some ⟨after, world.held⟩ := by
  simp [perform?, after?, ran]

theorem exists_run_once (sound : world.custody.Sound) (held : object ∈ world.held)
    (unknown : world.registry.registration? object = none)
    (more : world.registry.next.number + 1 < UInt64.size) :
    ∃ history after, world.Run history after ∧ after.held = world.held ∧
      after.registry.next.number = world.registry.next.number + 1 ∧
      ∀ other, world.registry.registration? other = none →
        after.registry.registration? other = none := by
  have consistent : world.registry.Consistent := sound.registry
  obtain ⟨next, successor⟩ : ∃ next, world.registry.next.next? = some next := ⟨_, dif_pos more⟩
  let middle : State := { world.state with
    registry := world.registry.register object next
    objects := world.state.objects.retain object
    events := world.state.events ++ [.wrapped world.registry.next 1] }
  have made : middle.registry.entry? world.registry.next = some ⟨object, 1⟩ := by
    rw [Registry.entry?_register, if_pos rfl]
  have wrapped : world.perform? (.wrap object) = some ⟨middle, world.held⟩ :=
    perform?_wrap_of_ok (run_wrapObject_of_unknown unknown consistent.resolve?_next successor)
  have released : perform? ⟨middle, world.held⟩ (.release world.registry.next) =
      some ⟨_, world.held⟩ :=
    perform?_release_of_ok (run_releaseHandle_of_last made rfl)
  have run := (Run.refl.call (.wrap object) held wrapped).call
    (.release world.registry.next) trivial released
  have afterSound := sound.moves (run.moves sound)
  refine ⟨_, _, run, rfl, Handle.number_of_next? successor, ?_⟩
  intro other unregistered
  apply (afterSound.registry.registration?_eq_none_iff other).2
  have free := (consistent.registration?_eq_none_iff other).1 unregistered
  change (Registry.remove middle.registry _ _).handles[other.address]? = none
  rw [Registry.handles_remove, Registry.handles_register, free]
  -- The entry went under the address of the wrapped object, so an address apart has none either.
  split <;> rfl

theorem exists_run_times (sound : world.custody.Sound) (held : object ∈ world.held)
    (unknown : world.registry.registration? object = none) (times : Nat)
    (more : world.registry.next.number + times < UInt64.size) :
    ∃ history after, world.Run history after ∧ after.held = world.held ∧
      after.registry.next.number = world.registry.next.number + times ∧
      ∀ other, world.registry.registration? other = none →
        after.registry.registration? other = none := by
  induction times with
  | zero => exact ⟨[], world, .refl, rfl, rfl, fun _ unregistered => unregistered⟩
  | succ times ih =>
      obtain ⟨earlier, middle, run, kept, number, unregistered⟩ := ih (by omega)
      have middleSound := sound.moves (run.moves sound)
      obtain ⟨later, after, once, again, next, still⟩ := exists_run_once middleSound (kept ▸ held)
        (unregistered object unknown) (by omega)
      refine ⟨_, after, run.trans once, again.trans kept, by omega, ?_⟩
      intro other free
      exact still other (unregistered other free)

end World

namespace Sample

def latecomer : Object := ⟨1, 32, .text "late"⟩

/-- All numbers but the last two are used up, and one object takes the last that is issued. -/
theorem exists_exhausted :
    ∃ history world handle, World.initial.Run history world ∧
      handle.number = UInt64.size - 2 ∧ world.registry.next.number = UInt64.size - 1 ∧
      world.registry.resolve? handle = some World.firstObject ∧ latecomer ∈ world.held ∧
      ∀ other, world.registry.resolve? other ≠ some latecomer := by
  obtain ⟨start, created, checked⟩ : ∃ world, World.initial.Run [] world ∧
      decide (World.firstObject ∈ world.held ∧ latecomer ∈ world.held ∧
        world.registry.next.number = 1 ∧
        world.registry.registration? World.firstObject = none ∧
        world.registry.registration? latecomer = none) = true :=
    World.exists_run [.create World.firstObject.content 16, .create latecomer.content 32]
      (by decide +kernel)
  obtain ⟨firstHeld, lateHeld, number, firstUnknown, lateUnknown⟩ := of_decide_eq_true checked
  obtain ⟨history, spent, run, kept, reached, unknown⟩ :=
    World.exists_run_times created.sound firstHeld firstUnknown (UInt64.size - 3)
      (by rw [number]; decide)
  have whole := created.trans run
  have sound := whole.sound
  have near : spent.registry.next.number = UInt64.size - 2 := by
    rw [reached, number]
    decide
  have more : spent.registry.next.number + 1 < UInt64.size := by
    rw [near]
    decide
  obtain ⟨next, successor⟩ : ∃ next, spent.registry.next.next? = some next := ⟨_, dif_pos more⟩
  have consistent : spent.registry.Consistent := sound.registry
  have permitted : World.firstObject ∈ spent.held := kept ▸ firstHeld
  have wrapped := World.perform?_wrap_of_ok (run_wrapObject_of_unknown
    (unknown World.firstObject firstUnknown) consistent.resolve?_next successor)
  refine ⟨_, _, spent.registry.next, whole.call (.wrap World.firstObject) permitted wrapped, near,
    ?_, ?_, kept ▸ lateHeld, ?_⟩
  · exact (Handle.number_of_next? successor).trans (by rw [near]; decide)
  · exact (Registry.resolve?_register _ _ _ _).trans (if_pos rfl)
  · intro other resolved
    have late := (registration?_eq_none_iff_unregistered sound (kept ▸ lateHeld)).1
      (unknown latecomer lateUnknown) other
    have registered := (Registry.resolve?_register spent.registry World.firstObject next other).symm.trans
      resolved
    split at registered
    · cases registered
    · exact late registered

end Sample

/-- At the end of the numbers a newcomer is refused, and the last object to get a handle keeps it. -/
theorem exhausted_registry_keeps_handles :
    ∃ history world handle, World.initial.Run history world ∧
      handle.number = UInt64.size - 2 ∧ world.registry.next.number = UInt64.size - 1 ∧
      (wrapObject Sample.latecomer).run world.state =
        (.error (.panic (.handlesExhausted (UInt64.size - 1))), world.state) ∧
      ∃ raised, (wrapObject World.firstObject).run world.state = (.ok handle, raised) ∧
        raised.registry.resolve? handle = some World.firstObject := by
  obtain ⟨history, world, handle, run, last, exhausted, registered, held, unregistered⟩ :=
    Sample.exists_exhausted
  obtain ⟨_, _, _, _, refused, intact⟩ := exhaustion_leaves_registry_intact run
  obtain ⟨halt, failed⟩ := (refused Sample.latecomer held).2 ⟨unregistered, exhausted⟩
  obtain ⟨_, _, goesOn⟩ := intact Sample.latecomer halt _ (Prod.ext failed rfl)
  obtain ⟨_, _, again, rewraps, _⟩ := goesOn [] world .refl
  obtain ⟨raised, ran, resolves, _⟩ := rewraps World.firstObject handle registered
  exact ⟨history, world, handle, run, last, exhausted, again Sample.latecomer held unregistered,
    raised, ran, (resolves handle).trans registered⟩

end Boundary
