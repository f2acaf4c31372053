import Boundary.Proofs.Handles.Identity

/-!
What holds of the registry in every run, although addresses are used again for new objects.
-/

namespace Boundary

/-- The maps of a registry are inverse, every entry counts at least one reference under a number that
was issued, and no object has two entries. An object whose address is known has its own entry, live
objects never share a handle, and no release runs below zero. -/
theorem registry_always_consistent {history : List Exchange} {world : World}
    (run : World.initial.Run history world) :
    (∀ (number : Nat) (entry : Entry), world.registry.entries[number]? = some entry →
        ∃ handle, world.registry.handles[entry.object.address]? = some handle ∧
          handle.number = number) ∧
      (∀ (address : Address) (handle : Handle), world.registry.handles[address]? = some handle →
        ∃ entry, world.registry.entries[handle.number]? = some entry ∧
          entry.object.address = address) ∧
      (∀ (number : Nat) (entry : Entry), world.registry.entries[number]? = some entry →
        1 ≤ entry.count ∧ 1 ≤ number ∧ number < world.registry.next.number) ∧
      (∀ (left right : Nat) (leftEntry rightEntry : Entry),
        world.registry.entries[left]? = some leftEntry →
        world.registry.entries[right]? = some rightEntry →
        leftEntry.object = rightEntry.object → left = right) ∧
      (∀ object ∈ world.held, ∀ handle : Handle,
        world.registry.handles[object.address]? = some handle →
        ∃ entry, world.registry.entries[handle.number]? = some entry ∧ entry.object = object) ∧
      (∀ (left right : Object) (handle : Handle), 0 < world.state.objects.referencesTo left →
        0 < world.state.objects.referencesTo right →
        world.registry.handles[left.address]? = some handle →
        world.registry.handles[right.address]? = some handle → left = right) ∧
      (∀ left ∈ world.held, ∀ right ∈ world.held, ∀ handle after,
        (wrapObject left).run world.state = (.ok handle, after) →
        ((wrapObject right).run after).1 = .ok handle → left = right) ∧
      ∀ handle, ((releaseHandle handle).run world.state).1 ≠
        .error (.panic .referencesUnderflow) := by
  have sound := run.sound
  have consistent : world.registry.Consistent := sound.registry
  have own (object : Object) (handle : Handle)
      (live : 0 < world.state.objects.referencesTo object)
      (mapped : world.registry.handles[object.address]? = some handle) :
      ∃ entry, world.registry.entries[handle.number]? = some entry ∧ entry.object = object := by
    obtain ⟨entry, found, address⟩ := consistent.entry_of_handle _ _ mapped
    have known := (consistent.registration?_eq_some_iff object handle entry).2 ⟨found, address⟩
    exact ⟨entry, found, sound.object_of_registration? live known⟩
  refine ⟨consistent.handle_of_entry, consistent.entry_of_handle, ?_, ?_, ?_, ?_, ?_, ?_⟩
  · intro number entry found
    obtain ⟨handle, _, rfl⟩ := consistent.handle_of_entry _ _ found
    exact ⟨consistent.count_pos _ _ found, handle.positive, consistent.number_lt _ _ found⟩
  · intro left right leftEntry rightEntry leftFound rightFound same
    obtain ⟨leftHandle, leftMapped, rfl⟩ := consistent.handle_of_entry _ _ leftFound
    obtain ⟨rightHandle, rightMapped, rfl⟩ := consistent.handle_of_entry _ _ rightFound
    rw [same, rightMapped] at leftMapped
    cases leftMapped
    rfl
  · intro object held handle mapped
    exact own object handle (sound.live_of_held held) mapped
  · intro left right handle leftLive rightLive leftMapped rightMapped
    obtain ⟨leftEntry, leftFound, rfl⟩ := own left handle leftLive leftMapped
    obtain ⟨rightEntry, rightFound, rfl⟩ := own right handle rightLive rightMapped
    rw [leftFound] at rightFound
    cases rightFound
    rfl
  · intro left leftHeld right rightHeld handle after leftRan rightResult
    have first := wrapObject_moves sound leftHeld
    rw [leftRan] at first
    have middleSound := sound.moves first
    have both := first.trans (wrapObject_moves middleSound rightHeld)
    rcases rightRan : (wrapObject right).run after with ⟨outcome, final⟩
    rw [rightRan] at both rightResult
    cases rightResult
    have wrapped : (left, handle) ∈
        handedOut (wrapExchanges left world.state ++ wrapExchanges right after) := by
      rw [handedOut_append]
      exact List.mem_append_left _ (handedOut_of_wrap leftRan)
    exact (both.eq_of_handedOut sound wrapped
      (wrapObject_resolves middleSound rightHeld rightRan)).symm
  · intro handle underflow
    rw [releaseHandle_result sound] at underflow
    cases underflow

theorem registry_consistent_after_reuse :
    ∃ world, World.initial.Run World.reuseHistory world ∧ World.secondObject ∈ world.held ∧
      world.registry.handles[World.firstObject.address]? = some World.third ∧
      ∃ entry, world.registry.entries[World.third.number]? = some entry ∧
        entry.object = World.secondObject := by
  obtain ⟨world, run, checked⟩ : ∃ world, World.initial.Run World.reuseHistory world ∧
      decide (World.secondObject ∈ world.held ∧
        world.registry.handles[World.firstObject.address]? = some World.third) = true :=
    World.exists_run World.addressReuse (by decide +kernel)
  obtain ⟨held, mapped⟩ := of_decide_eq_true checked
  obtain ⟨_, _, _, _, own, _⟩ := registry_always_consistent run
  exact ⟨world, run, held, mapped, own World.secondObject held World.third mapped⟩

end Boundary
