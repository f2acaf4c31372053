import Boundary.Proofs.World

/-!
Handing out and taking back as inverses. Main statement: in every run a wrap and the release of the
handle it gave leave all that a registry can be asked as it was, unless the count had no room left. A
count without room stays where it is on the wrap and still goes down on the release.
-/

namespace Boundary

namespace Registry

/-- Two registries that answer alike for every handle and have as many live entries. -/
structure SeenAlike (left right : Registry) : Prop where
  count : ∀ handle, left.count handle = right.count handle
  resolve : ∀ handle, left.resolve? handle = right.resolve? handle
  live : left.live = right.live

def CountsFit (registry : Registry) : Prop :=
  ∀ handle, registry.count handle ≤ Entry.greatestCount

theorem CountsFit.empty : CountsFit {} := by
  intro handle
  simp [count, entry?]

namespace CountsFit

variable {registry : Registry} (fits : registry.CountsFit)

include fits

theorem withEntry {entry : Entry} (bound : entry.count ≤ Entry.greatestCount) (handle : Handle) :
    (registry.withEntry handle entry).CountsFit := by
  intro other
  rw [count_withEntry]
  split
  · exact bound
  · exact fits other

theorem register (object : Object) (next : Handle) : (registry.register object next).CountsFit := by
  intro other
  rw [count_register]
  split
  · decide
  · exact fits other

theorem remove (handle : Handle) (entry : Entry) : (registry.remove handle entry).CountsFit := by
  intro other
  rw [count_remove]
  split
  · exact Nat.zero_le _
  · exact fits other

end CountsFit

end Registry

namespace Custody

variable {start custody after : Custody} {history exchanges : List Exchange}

theorem Move.countsFit (move : custody.Move exchanges after)
    (fits : custody.registry.CountsFit) : after.registry.CountsFit := by
  cases move with
  | issue _ _ _ => exact fits.register _ _
  | share _ _ => exact fits.withEntry (Nat.min_le_right _ _) _
  | @lower handle entry found _ =>
      have bound := fits handle
      rw [Registry.count_of_found found] at bound
      exact fits.withEntry ((Nat.sub_le _ _).trans bound) _
  | close _ _ => exact fits.remove _ _
  | create _ _ _ | copy _ | drop _ | take _ => exact fits

theorem Moves.countsFit (moves : start.Moves history custody)
    (fits : start.registry.CountsFit) : custody.registry.CountsFit := by
  induction moves with
  | refl => exact fits
  | tail _ move ih => exact move.countsFit ih

theorem Sound.unknown_of_unregistered (sound : custody.Sound) {object : Object}
    (held : object ∈ custody.held)
    (unregistered : ∀ handle, custody.registry.resolve? handle ≠ some object) :
    custody.registry.registration? object = none := by
  by_contra known
  obtain ⟨⟨handle, entry⟩, registered⟩ := Option.ne_none_iff_exists'.1 known
  have own := sound.object_of_registration? (sound.live_of_held held) registered
  have found := Registry.entry?_of_registration? registered
  exact unregistered handle (by rw [Registry.resolve?_of_found found, own])

end Custody

theorem World.Run.countsFit {history : List Exchange} {world : World}
    (run : World.initial.Run history world) : world.registry.CountsFit :=
  (run.moves .empty).countsFit .empty

section Undo

variable {state : State} {object : Object} {handle : Handle}

theorem run_wrap_release_of_known {entry : Entry}
    (known : state.registry.registration? object = some (handle, entry))
    (counted : 0 < entry.count) :
    ∃ middle after, (wrapObject object).run state = (.ok handle, middle) ∧
      (releaseHandle handle).run middle = (.ok true, after) ∧
      (∀ other, after.registry.resolve? other = state.registry.resolve? other) ∧
      after.registry.live = state.registry.live ∧
      ∀ other, after.registry.count other =
        if handle = other then min (entry.count + 1) Entry.greatestCount - 1
        else state.registry.count other := by
  have found := Registry.entry?_of_registration? known
  have raised : Registry.entry? (state.registry.withEntry handle entry.raise) handle =
      some entry.raise := by
    rw [Registry.entry?_withEntry, if_pos rfl]
  have several : 1 < entry.raise.count :=
    Nat.lt_min.2 ⟨Nat.succ_lt_succ counted, by decide⟩
  refine ⟨_, _, run_wrapObject_of_known known, run_releaseHandle_of_several raised several, ?_, ?_,
    ?_⟩
  · intro other
    dsimp only
    rw [Registry.resolve?_withEntry raised (by rfl), Registry.resolve?_withEntry found (by rfl)]
  · exact (Registry.live_withEntry raised _).trans (Registry.live_withEntry found _)
  · intro other
    dsimp only
    rw [Registry.count_withEntry, Registry.count_withEntry]
    split <;> rfl

theorem run_wrap_release_of_unknown {next : Handle} (consistent : state.registry.Consistent)
    (unknown : state.registry.registration? object = none)
    (successor : state.registry.next.next? = some next) :
    ∃ middle after, (wrapObject object).run state = (.ok state.registry.next, middle) ∧
      middle.registry.resolve? state.registry.next = some object ∧
      (releaseHandle state.registry.next).run middle = (.ok true, after) ∧
      after.registry.SeenAlike state.registry := by
  have missing := consistent.entry?_next
  have made : Registry.entry? (state.registry.register object next) state.registry.next =
      some ⟨object, 1⟩ := by
    rw [Registry.entry?_register, if_pos rfl]
  refine ⟨_, _, run_wrapObject_of_unknown unknown consistent.resolve?_next successor,
    Registry.resolve?_of_found made, run_releaseHandle_of_last made rfl, ?_, ?_, ?_⟩
  · intro other
    dsimp only
    rw [Registry.count_remove, Registry.count_register]
    split
    · rename_i here
      rw [← here, Registry.count_of_missing missing]
    · rfl
  · intro other
    dsimp only
    rw [Registry.resolve?_remove, Registry.resolve?_register]
    split
    · rename_i here
      rw [← here, consistent.resolve?_next]
    · rfl
  · dsimp only
    rw [Registry.live_remove made, Registry.live_register missing]
    exact Nat.add_sub_cancel _ _

end Undo

/-- In every run, a registered object is wrapped under its handle, and releasing that handle succeeds
and undoes the wrap: every handle resolves as before, as many entries are live, and every count is as
before, except that the greatest count comes back one less. An object that the program holds and that
is not registered is wrapped, while handles are left, under a handle that the release ends again, and
then the registry answers as before. -/
theorem release_undoes_wrap {history : List Exchange} {world : World}
    (run : World.initial.Run history world) :
    (∀ object handle, world.registry.resolve? handle = some object →
        ∃ middle after, (wrapObject object).run world.state = (.ok handle, middle) ∧
          (releaseHandle handle).run middle = (.ok true, after) ∧
          (∀ other, after.registry.resolve? other = world.registry.resolve? other) ∧
          after.registry.live = world.registry.live ∧
          (∀ other, other ≠ handle →
            after.registry.count other = world.registry.count other) ∧
          ((world.registry.count handle < Entry.greatestCount ∧
              after.registry.SeenAlike world.registry) ∨
            (world.registry.count handle = Entry.greatestCount ∧
              after.registry.count handle = Entry.greatestCount - 1))) ∧
      ∀ object ∈ world.held, (∀ handle, world.registry.resolve? handle ≠ some object) →
        world.registry.next.next? ≠ none →
        ∃ handle middle after, (wrapObject object).run world.state = (.ok handle, middle) ∧
          middle.registry.resolve? handle = some object ∧
          (releaseHandle handle).run middle = (.ok true, after) ∧
          after.registry.resolve? handle = none ∧
          after.registry.SeenAlike world.registry := by
  have sound := run.sound
  have consistent : world.registry.Consistent := sound.registry
  constructor
  · intro object handle registered
    obtain ⟨entry, found, rfl⟩ := (Registry.resolve?_eq_some_iff _ _ _).1 registered
    have known := (consistent.registration?_eq_some_iff entry.object handle entry).2 ⟨found, rfl⟩
    have count := Registry.count_of_found found
    obtain ⟨middle, after, wrapped, released, resolves, live, counts⟩ :=
      run_wrap_release_of_known known (consistent.count_pos _ _ found)
    have others (other : Handle) (different : other ≠ handle) :
        after.registry.count other = world.registry.count other := by
      rw [counts, if_neg different.symm]
    have own : after.registry.count handle =
        min (world.registry.count handle + 1) Entry.greatestCount - 1 := by
      rw [counts, if_pos rfl, count]
    refine ⟨middle, after, wrapped, released, resolves, live, others, ?_⟩
    rcases Nat.lt_or_eq_of_le (run.countsFit handle) with room | full
    · refine .inl ⟨room, ?_, resolves, live⟩
      intro other
      by_cases here : other = handle
      · rw [here, own]
        omega
      · exact others other here
    · refine .inr ⟨full, ?_⟩
      rw [own, full, Nat.min_eq_right (Nat.le_succ _)]
  · intro object held unregistered remaining
    have unknown := sound.unknown_of_unregistered held unregistered
    obtain ⟨next, successor⟩ := Option.ne_none_iff_exists'.1 remaining
    obtain ⟨middle, after, wrapped, resolves, released, alike⟩ :=
      run_wrap_release_of_unknown consistent unknown successor
    refine ⟨_, middle, after, wrapped, resolves, released, ?_, alike⟩
    rw [alike.resolve, consistent.resolve?_next]

theorem release_undoes_wrap_after_reuse :
    ∃ world, World.initial.Run World.reuseHistory world ∧
      world.registry.resolve? World.third = some World.secondObject ∧
      ∃ middle after,
        (wrapObject World.secondObject).run world.state = (.ok World.third, middle) ∧
        (releaseHandle World.third).run middle = (.ok true, after) ∧
        after.registry.live = world.registry.live := by
  obtain ⟨world, run, resolved⟩ : ∃ world, World.initial.Run World.reuseHistory world ∧
      decide (world.registry.resolve? World.third = some World.secondObject) = true :=
    World.exists_run World.addressReuse (by decide +kernel)
  have registered := of_decide_eq_true resolved
  obtain ⟨middle, after, wrapped, released, _, live, _, _⟩ :=
    (release_undoes_wrap run).1 World.secondObject World.third registered
  exact ⟨world, run, registered, middle, after, wrapped, released, live⟩

namespace World

variable {world : World} {object : Object} {handle : Handle}

theorem perform?_wrap_of_registered (sound : world.custody.Sound)
    (registered : world.registry.resolve? handle = some object) :
    ∃ after, world.perform? (.wrap object) = some after ∧
      world.exchanges (.wrap object) = [.shared object handle] ∧ after.held = world.held ∧
      after.registry.resolve? handle = some object ∧
      after.registry.count handle = min (world.registry.count handle + 1) Entry.greatestCount := by
  obtain ⟨entry, found, rfl⟩ := (Registry.resolve?_eq_some_iff _ _ _).1 registered
  have known := (sound.registry.registration?_eq_some_iff entry.object handle entry).2 ⟨found, rfl⟩
  have ran := run_wrapObject_of_known known
  have performed : world.perform? (.wrap entry.object) =
      some ⟨((wrapObject entry.object).run world.state).2, world.held⟩ := by
    simp [perform?, after?, ran]
  have changed : ((wrapObject entry.object).run world.state).2.registry =
      world.registry.withEntry handle entry.raise := by
    rw [ran]
  refine ⟨_, performed, ?_, rfl, ?_, ?_⟩
  · simp [exchanges, wrapExchanges, ran, Exchange.ofWrap, registered]
  · rw [registry, changed, Registry.resolve?_withEntry found (by rfl), registered]
  · rw [registry, changed, Registry.count_withEntry, if_pos rfl, Registry.count_of_found found]
    rfl

theorem Run.wrap_again (sound : world.custody.Sound) (held : object ∈ world.held)
    (registered : world.registry.resolve? handle = some object)
    (fits : world.registry.CountsFit) (times : Nat) :
    ∃ after, world.Run (List.replicate times (.shared object handle)) after ∧
      after.held = world.held ∧ after.registry.resolve? handle = some object ∧
      after.registry.count handle =
        min (world.registry.count handle + times) Entry.greatestCount := by
  induction times with
  | zero => exact ⟨world, .refl, rfl, registered, (Nat.min_eq_left (fits handle)).symm⟩
  | succ times ih =>
      obtain ⟨middle, run, middleHeld, middleRegistered, middleCount⟩ := ih
      have middleSound := sound.moves (run.moves sound)
      obtain ⟨after, performed, exchanged, afterHeld, afterRegistered, afterCount⟩ :=
        perform?_wrap_of_registered middleSound middleRegistered
      have permitted : middle.Permits (.wrap object) := by
        rw [Permits, middleHeld]
        exact held
      have last := run.call _ permitted performed
      rw [exchanged, ← List.replicate_succ'] at last
      refine ⟨after, last, afterHeld.trans middleHeld, afterRegistered, ?_⟩
      rw [afterCount, middleCount]
      omega

end World

/-- An object that was wrapped as often as a count can say, and never released, has one reference less
on its count after one more wrap and its release. -/
theorem wrap_beyond_greatest_not_undone :
    ∃ world middle after,
      World.initial.Run (.issued World.firstObject .first ::
        List.replicate 0xfffffffe (.shared World.firstObject .first)) world ∧
      world.registry.resolve? .first = some World.firstObject ∧
      (wrapObject World.firstObject).run world.state = (.ok .first, middle) ∧
      (releaseHandle .first).run middle = (.ok true, after) ∧
      world.registry.count .first = 0xffffffff ∧ after.registry.count .first = 0xfffffffe := by
  obtain ⟨start, run, checked⟩ : ∃ world,
      World.initial.Run [.issued World.firstObject .first] world ∧
        decide (World.firstObject ∈ world.held ∧
          world.registry.resolve? .first = some World.firstObject ∧
          world.registry.count .first = 1) = true :=
    World.exists_run [.create World.firstObject.content 16, .wrap World.firstObject]
      (by decide +kernel)
  obtain ⟨held, registered, once⟩ := of_decide_eq_true checked
  obtain ⟨world, again, _, resolved, count⟩ :=
    World.Run.wrap_again run.sound held registered run.countsFit 0xfffffffe
  have whole := run.trans again
  obtain ⟨entry, found, same⟩ := (Registry.resolve?_eq_some_iff _ _ _).1 resolved
  have full : entry.count = 0xffffffff := by
    rw [← Registry.count_of_found found, count, once]
    rfl
  have known := (whole.sound.registry.registration?_eq_some_iff World.firstObject .first entry).2
    ⟨found, by rw [same]⟩
  obtain ⟨middle, after, wrapped, released, _, _, counts⟩ :=
    run_wrap_release_of_known known (by omega)
  refine ⟨world, middle, after, whole, resolved, wrapped, released, ?_, ?_⟩
  · rw [Registry.count_of_found found, full]
  · rw [counts, if_pos rfl, full]
    rfl

end Boundary
