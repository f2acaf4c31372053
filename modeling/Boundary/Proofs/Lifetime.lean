import Boundary.Proofs.Encoding

/-!
How long objects live. Main statement: in every run the references to an object are those of the
program and one of the registry while the object is registered, so that an object that only the
registry refers to ends with the last release of its handle and not before.
-/

namespace Boundary

namespace Objects

/-- No cell has the object any more. -/
def Freed (objects : Objects) (object : Object) : Prop :=
  ∀ (address : Address) (cell : Cell),
    objects.cells[address]? = some cell → cell.object ≠ object

theorem cell_of_referencesTo {objects : Objects} {object : Object} {count : Nat}
    (references : objects.referencesTo object = count) (positive : 0 < count) :
    objects.cells[object.address]? = some ⟨object, count⟩ := by
  subst references
  obtain ⟨cell, found, rfl⟩ := cell_of_referencesTo_pos positive
  have counted : objects.referencesTo cell.object = cell.references := by
    simp [referencesTo, found]
  rw [found, counted]

theorem Sound.freed_iff {objects : Objects} (sound : objects.Sound) (object : Object) :
    objects.Freed object ↔ objects.referencesTo object = 0 := by
  constructor
  · intro freed
    by_contra live
    obtain ⟨cell, found, same⟩ := cell_of_referencesTo_pos (Nat.pos_of_ne_zero live)
    exact freed _ _ found same
  · rintro none address cell found rfl
    have positive := sound.references_pos _ _ found
    rw [← sound.address_eq _ _ found] at found
    simp only [referencesTo, found, if_true] at none
    omega

end Objects

namespace Custody.Sound

variable {custody : Custody} (sound : custody.Sound) {object : Object}

include sound

theorem references_of_registered {handle : Handle}
    (registered : custody.registry.resolve? handle = some object) :
    custody.objects.referencesTo object = custody.held.count object + 1 := by
  rw [sound.balanced, (sound.registry.holds_iff object).2 ⟨handle, registered⟩]
  rfl

theorem references_of_unregistered
    (unregistered : ∀ handle, custody.registry.resolve? handle ≠ some object) :
    custody.objects.referencesTo object = custody.held.count object := by
  have unknown : custody.registry.holds object = false := by
    rw [← Bool.not_eq_true, sound.registry.holds_iff]
    rintro ⟨handle, registered⟩
    exact unregistered handle registered
  rw [sound.balanced, unknown]
  rfl

theorem not_freed_of_registered {handle : Handle}
    (registered : custody.registry.resolve? handle = some object) :
    ¬ custody.objects.Freed object := by
  rw [sound.objects.freed_iff, sound.references_of_registered registered]
  exact Nat.succ_ne_zero _

end Custody.Sound

theorem closed_mem_releaseExchanges {state : State} {handle other : Handle}
    (consistent : state.registry.Consistent)
    (closed : .closed handle ∈ releaseExchanges other state) :
    other = handle ∧ state.registry.count handle = 1 := by
  cases found : state.registry.entry? other with
  | none => simp [releaseExchanges, run_releaseHandle_of_dead found] at closed
  | some entry =>
      have positive : 0 < entry.count := consistent.count_pos _ _ found
      rcases Nat.eq_or_lt_of_le positive with last | several
      · rw [releaseExchanges, run_releaseHandle_of_last found last.symm] at closed
        simp only [List.mem_singleton, Exchange.ofRelease] at closed
        split at closed
        · cases closed
        · cases closed
          exact ⟨rfl, (Registry.count_of_found found).trans last.symm⟩
      · rw [releaseExchanges, run_releaseHandle_of_several found several] at closed
        have resolved := Registry.resolve?_of_found found
        simp [Exchange.ofRelease, Registry.resolve?_withEntry found, resolved] at closed

namespace World

variable {world after : World} {call : Call} {handle : Handle} {object : Object}

theorem closed_mem_exchanges (consistent : world.registry.Consistent)
    (closed : .closed handle ∈ world.exchanges call) :
    call = .release handle ∧ world.registry.count handle = 1 := by
  cases call with
  | release other =>
      obtain ⟨rfl, last⟩ := closed_mem_releaseExchanges consistent closed
      exact ⟨rfl, last⟩
  | wrap object => exact absurd closed (closed_notMem_exchanges (.object object) world.state handle)
  | pack platform value => exact absurd closed (closed_notMem_exchanges value world.state handle)
  | packAll platform values =>
      exact absurd closed (closed_notMem_batchExchanges values world.state handle)
  | create _ _ | copy _ | drop _ | resolve _ | unpack _ | unpackAll _ | native _ => cases closed

theorem freed_of_last_release (sound : world.custody.Sound)
    (registered : world.registry.resolve? handle = some object)
    (unheld : object ∉ world.held) (last : world.registry.count handle = 1)
    (performed : world.perform? (.release handle) = some after) :
    after.state.objects.Freed object := by
  obtain ⟨entry, found, rfl⟩ := (Registry.resolve?_eq_some_iff _ _ _).1 registered
  have one : entry.count = 1 := (Registry.count_of_found found).symm.trans last
  have soundAfter := sound.close found
  rw [perform?, after?, run_releaseHandle_of_last found one] at performed
  cases performed
  apply (soundAfter.objects.freed_iff entry.object).2
  have alone : world.custody.held.count entry.object = 0 :=
    Multiset.count_eq_zero_of_notMem unheld
  have balance := soundAfter.balanced entry.object
  rw [sound.registry.holds_remove found] at balance
  simpa [alone] using balance

/-- An object that only the registry refers to is freed by the last release of its handle, and by
no other call. -/
theorem freed_iff_last_release (sound : world.custody.Sound)
    (registered : world.registry.resolve? handle = some object)
    (unheld : object ∉ world.held) (permitted : world.Permits call)
    (performed : world.perform? call = some after) :
    after.state.objects.Freed object ↔
      call = .release handle ∧ world.registry.count handle = 1 := by
  constructor
  · intro freed
    have moves := perform?_moves sound permitted performed
    apply closed_mem_exchanges sound.registry
    by_contra kept
    have stays := moves.resolve?_stays sound registered kept
    exact (sound.moves moves).not_freed_of_registered stays freed
  · rintro ⟨rfl, last⟩
    exact freed_of_last_release sound registered unheld last performed

end World

/-- In every run the references to a registered object are those of the program and one more,
however often its handle was handed out, those to another one are the program's, and an object
without any is gone. An object that only the registry refers to is freed by exactly that call which
releases the last reference of its handle; as long as none does, the handle resolves and the object
lives. -/
theorem registry_holds_one_reference {history : List Exchange} {world : World}
    (run : World.initial.Run history world) :
    (∀ object handle, world.registry.resolve? handle = some object →
        world.state.objects.cells[object.address]? =
          some ⟨object, world.held.count object + 1⟩) ∧
      (∀ object ∈ world.held, (∀ handle, world.registry.resolve? handle ≠ some object) →
        world.state.objects.cells[object.address]? =
          some ⟨object, world.held.count object⟩) ∧
      (∀ object ∉ world.held, (∀ handle, world.registry.resolve? handle ≠ some object) →
        world.state.objects.Freed object) ∧
      (∀ object handle, world.registry.resolve? handle = some object → object ∉ world.held →
        ∀ call after, world.Permits call → world.perform? call = some after →
          (after.state.objects.Freed object ↔
            call = .release handle ∧ world.registry.count handle = 1)) ∧
      ∀ object handle, world.registry.resolve? handle = some object →
        ∀ later after, world.Run later after → .closed handle ∉ later →
          after.registry.resolve? handle = some object ∧
            ¬ after.state.objects.Freed object := by
  have sound := run.sound
  refine ⟨?_, ?_, ?_, ?_, ?_⟩
  · intro object handle registered
    exact Objects.cell_of_referencesTo (sound.references_of_registered registered)
      (Nat.succ_pos _)
  · intro object held unregistered
    exact Objects.cell_of_referencesTo (sound.references_of_unregistered unregistered)
      (Multiset.count_pos.2 held)
  · intro object unheld unregistered
    apply (sound.objects.freed_iff object).2
    rw [sound.references_of_unregistered unregistered]
    exact Multiset.count_eq_zero_of_notMem unheld
  · intro object handle registered unheld call after permitted performed
    exact World.freed_iff_last_release sound registered unheld permitted performed
  · intro object handle registered later after continued kept
    have moves := continued.moves sound
    have stays := moves.resolve?_stays sound registered kept
    exact ⟨stays, (sound.moves moves).not_freed_of_registered stays⟩

namespace Sample

def abandonment : List Call := [
  .create World.firstObject.content 16,
  .wrap World.firstObject,
  .packAll .wide [.object World.firstObject, .object World.firstObject],
  .unpack ⟨9, .ofAddress 1, 0⟩,
  .copy World.firstObject,
  .drop World.firstObject,
  .drop World.firstObject,
  .drop World.firstObject,
  .release .first,
  .release .first]

end Sample

theorem last_release_frees_abandoned :
    ∃ history world after, World.initial.Run history world ∧
      world.state.objects.cells[(16 : Address)]? = some ⟨World.firstObject, 1⟩ ∧
      world.perform? (.release .first) = some after ∧
      after.state.objects.Freed World.firstObject := by
  have checked : (World.initial.follow? Sample.abandonment).any (fun result =>
      decide (result.2.registry.resolve? .first = some World.firstObject ∧
        result.2.held.count World.firstObject = 0 ∧ result.2.registry.count .first = 1 ∧
        (result.2.perform? (.release .first)).isSome)) = true := by decide +kernel
  obtain ⟨⟨history, world⟩, followed, holds⟩ := (Option.any_eq_true _ _).1 checked
  obtain ⟨registered, none, last, survives⟩ := of_decide_eq_true holds
  obtain ⟨after, performed⟩ := Option.isSome_iff_exists.1 survives
  have run := World.follow?_run followed
  obtain ⟨counted, _, _, ended, _⟩ := registry_holds_one_reference run
  have unheld : World.firstObject ∉ world.held := Multiset.count_eq_zero.1 none
  refine ⟨history, world, after, run, ?_, performed, ?_⟩
  · have cell := counted World.firstObject .first registered
    rw [none] at cell
    exact cell
  · exact (ended World.firstObject .first registered unheld (.release .first) after trivial
      performed).2 ⟨rfl, last⟩

end Boundary
