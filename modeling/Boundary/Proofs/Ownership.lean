import Boundary.Ownership
import Boundary.Proofs.Custody

/-!
What handing out, taking back and resolving a handle do. Each has one equation for each way it can
go, and each is a move of custody or leaves custody alone.
-/

namespace Boundary

def State.custody (state : State) (held : Multiset Object) : Custody :=
  ⟨state.registry, state.objects, held⟩

def Exchange.ofWrap (before : Registry) (object : Object) (handle : Handle) : Exchange :=
  if (before.resolve? handle).isSome then .shared object handle else .issued object handle

def Exchange.ofRelease (after : Registry) (handle : Handle) : Exchange :=
  if (after.resolve? handle).isSome then .returned handle else .closed handle

def wrapExchanges (object : Object) (state : State) : List Exchange :=
  match (wrapObject object).run state with
  | (.ok handle, _) => [.ofWrap state.registry object handle]
  | _ => []

def releaseExchanges (handle : Handle) (state : State) : List Exchange :=
  match (releaseHandle handle).run state with
  | (.ok true, after) => [.ofRelease after.registry handle]
  | _ => []

section Wrap

variable {state : State} {object : Object}

theorem run_wrapObject_of_known {handle : Handle} {entry : Entry}
    (known : state.registry.registration? object = some (handle, entry)) :
    (wrapObject object).run state = (.ok handle, { state with
      registry := state.registry.withEntry handle entry.raise
      events := state.events ++ [.wrapped handle entry.raise.count] }) := by
  have found := Registry.entry?_of_registration? known
  have count : (state.registry.withEntry handle entry.raise).count handle = entry.raise.count := by
    simp [Registry.count, Registry.entry?_withEntry]
  have wrapped : state.registry.wrap? object =
      some (handle, state.registry.withEntry handle entry.raise) := by
    simp [Registry.wrap?, known, Registry.withEntry]
  simp [wrapObject, setRegistry, wrapped, count, Registry.resolve?_of_found found]

theorem run_wrapObject_of_unknown {next : Handle}
    (unknown : state.registry.registration? object = none)
    (fresh : state.registry.resolve? state.registry.next = none)
    (successor : state.registry.next.next? = some next) :
    (wrapObject object).run state = (.ok state.registry.next, { state with
      registry := state.registry.register object next
      objects := state.objects.retain object
      events := state.events ++ [.wrapped state.registry.next 1] }) := by
  have count : (state.registry.register object next).count state.registry.next = 1 := by
    simp [Registry.count, Registry.entry?_register]
  have wrapped : state.registry.wrap? object =
      some (state.registry.next, state.registry.register object next) := by
    simp [Registry.wrap?, unknown, successor]
  simp [wrapObject, setRegistry, retainObject, wrapped, count, fresh]

theorem run_wrapObject_of_exhausted (unknown : state.registry.registration? object = none)
    (exhausted : state.registry.next.next? = none) :
    (wrapObject object).run state =
      (.error (.panic (.handlesExhausted state.registry.next.number)), state) := by
  simp [wrapObject, Registry.wrap?, unknown, exhausted]

theorem wrapObject_of_wrap? {handle : Handle} {registry : Registry}
    (wrapped : state.registry.wrap? object = some (handle, registry)) :
    ∃ after, (wrapObject object).run state = (.ok handle, after) ∧ after.registry = registry := by
  unfold wrapObject
  simp only [Action.run_bind, Action.run_get, wrapped, setRegistry, retainObject, Action.run_modify,
    Action.run_emit]
  split
  · exact ⟨_, rfl, rfl⟩
  · exact ⟨_, rfl, rfl⟩

theorem run_wrapObject_of_refused (refused : state.registry.wrap? object = none) :
    (wrapObject object).run state =
      (.error (.panic (.handlesExhausted state.registry.next.number)), state) := by
  simp [wrapObject, refused]

end Wrap

section Release

variable {state : State} {handle : Handle} {entry : Entry}

theorem run_releaseHandle_of_dead (dead : state.registry.entry? handle = none) :
    (releaseHandle handle).run state = (.ok false, state) := by
  simp [releaseHandle, dead]

theorem run_releaseHandle_of_several (found : state.registry.entry? handle = some entry)
    (several : 1 < entry.count) :
    (releaseHandle handle).run state = (.ok true, { state with
      registry := state.registry.withEntry handle { entry with count := entry.count - 1 }
      events := state.events ++ [.released handle (entry.count - 1)] }) := by
  have positive : entry.count ≠ 0 := by omega
  have lowered : state.registry.lower handle entry =
      state.registry.withEntry handle { entry with count := entry.count - 1 } := by
    simp [Registry.lower, Registry.withEntry, Nat.ne_of_gt several]
  have after := state.registry.entry?_withEntry handle handle { entry with count := entry.count - 1 }
  rw [if_pos rfl] at after
  simp [releaseHandle, setRegistry, found, positive, lowered, Registry.count, Registry.resolve?,
    after]

theorem run_releaseHandle_of_last (found : state.registry.entry? handle = some entry)
    (last : entry.count = 1) :
    (releaseHandle handle).run state = (.ok true, { state with
      registry := state.registry.remove handle entry
      objects := state.objects.drop entry.object
      events := state.events ++ [.released handle 0] }) := by
  have lowered : state.registry.lower handle entry = state.registry.remove handle entry := by
    simp [Registry.lower, last]
  have after := state.registry.entry?_remove handle handle entry
  rw [if_pos rfl] at after
  simp [releaseHandle, setRegistry, dropObject, found, last, lowered, Registry.count,
    Registry.resolve?, after]

end Release

theorem run_resolveHandle (handle : Handle) (state : State) :
    (resolveHandle handle).run state = (.ok (state.registry.resolve? handle),
      match state.registry.resolve? handle with
      | some object => { state with objects := state.objects.retain object }
      | none => state) := by
  cases found : state.registry.resolve? handle with
  | none => simp [resolveHandle, found]
  | some object => simp [resolveHandle, retainObject, found]

section Moves

variable {state : State} {held : Multiset Object} (sound : (state.custody held).Sound)

include sound

theorem wrapObject_moves {object : Object} (owned : object ∈ held) :
    (state.custody held).Moves (wrapExchanges object state)
      (((wrapObject object).run state).2.custody held) := by
  cases known : state.registry.registration? object with
  | some registration =>
      obtain ⟨handle, entry⟩ := registration
      have resolved := Registry.resolve?_of_found (Registry.entry?_of_registration? known)
      have exchanged : wrapExchanges object state = [.shared object handle] := by
        simp [wrapExchanges, run_wrapObject_of_known known, Exchange.ofWrap, resolved]
      have move : (state.custody held).Move _ _ := .share owned known
      rw [exchanged, run_wrapObject_of_known known]
      exact move.moves
  | none =>
      have dead : state.registry.resolve? state.registry.next = none :=
        sound.registry.resolve?_next
      cases successor : state.registry.next.next? with
      | none =>
          have exchanged : wrapExchanges object state = [] := by
            simp [wrapExchanges, run_wrapObject_of_exhausted known successor]
          rw [exchanged, run_wrapObject_of_exhausted known successor]
          exact Custody.Moves.refl
      | some next =>
          have exchanged : wrapExchanges object state = [.issued object state.registry.next] := by
            simp [wrapExchanges, run_wrapObject_of_unknown known dead successor, Exchange.ofWrap,
              dead]
          have move : (state.custody held).Move _ _ := .issue owned known successor
          rw [exchanged, run_wrapObject_of_unknown known dead successor]
          exact move.moves

theorem wrapObject_resolves {object : Object} {handle : Handle} {after : State}
    (owned : object ∈ held) (ran : (wrapObject object).run state = (.ok handle, after)) :
    after.registry.resolve? handle = some object := by
  cases known : state.registry.registration? object with
  | some registration =>
      obtain ⟨other, entry⟩ := registration
      rw [run_wrapObject_of_known known] at ran
      cases ran
      exact sound.resolve?_of_share owned known
  | none =>
      have dead : state.registry.resolve? state.registry.next = none :=
        sound.registry.resolve?_next
      cases successor : state.registry.next.next? with
      | none =>
          rw [run_wrapObject_of_exhausted known successor] at ran
          cases ran
      | some next =>
          rw [run_wrapObject_of_unknown known dead successor] at ran
          cases ran
          rw [Registry.resolve?_register, if_pos rfl]

/-- Taking back never underflows, and succeeds exactly for a handle in use. -/
theorem releaseHandle_result (handle : Handle) :
    ((releaseHandle handle).run state).1 = .ok (state.registry.resolve? handle).isSome := by
  cases found : state.registry.entry? handle with
  | none => simp [run_releaseHandle_of_dead found, Registry.resolve?, found]
  | some entry =>
      have positive : 0 < entry.count := sound.registry.count_pos _ _ found
      rcases Nat.eq_or_lt_of_le positive with last | several
      · simp [run_releaseHandle_of_last found last.symm, Registry.resolve?, found]
      · simp [run_releaseHandle_of_several found several, Registry.resolve?, found]

theorem releaseHandle_moves (handle : Handle) :
    (state.custody held).Moves (releaseExchanges handle state)
      (((releaseHandle handle).run state).2.custody held) := by
  cases found : state.registry.entry? handle with
  | none =>
      have exchanged : releaseExchanges handle state = [] := by
        simp [releaseExchanges, run_releaseHandle_of_dead found]
      rw [exchanged, run_releaseHandle_of_dead found]
      exact Custody.Moves.refl
  | some entry =>
      have positive : 0 < entry.count := sound.registry.count_pos _ _ found
      rcases Nat.eq_or_lt_of_le positive with last | several
      · have exchanged : releaseExchanges handle state = [.closed handle] := by
          simp [releaseExchanges, run_releaseHandle_of_last found last.symm, Exchange.ofRelease,
            Registry.resolve?_remove]
        have move : (state.custody held).Move _ _ := .close found last.symm
        rw [exchanged, run_releaseHandle_of_last found last.symm]
        exact move.moves
      · have resolved := Registry.resolve?_of_found found
        have exchanged : releaseExchanges handle state = [.returned handle] := by
          simp [releaseExchanges, run_releaseHandle_of_several found several, Exchange.ofRelease,
            Registry.resolve?_withEntry found, resolved]
        have move : (state.custody held).Move _ _ := .lower found several
        rw [exchanged, run_releaseHandle_of_several found several]
        exact move.moves

omit sound in
theorem resolveHandle_moves (handle : Handle) :
    (state.custody held).Moves [] (((resolveHandle handle).run state).2.custody
      (↑(state.registry.resolve? handle).toList + held)) := by
  rw [run_resolveHandle]
  cases found : state.registry.resolve? handle with
  | none => simpa using Custody.Moves.refl
  | some object =>
      have move : (state.custody held).Move _ _ := .take found
      exact move.moves

end Moves

end Boundary
