import Boundary.Proofs.World

/-!
A handle never changes its meaning. Along any moves the registry only issues handles above all
earlier ones, and a handle below them resolves to what it did before or to nothing.
-/

namespace Boundary

namespace Exchange

def handle : Exchange → Handle
  | issued _ handle | shared _ handle | returned handle | closed handle => handle

def handedOut? : Exchange → Option (Object × Handle)
  | issued object handle | shared object handle => some (object, handle)
  | returned _ | closed _ => none

theorem handle_of_handedOut? {exchange : Exchange} {object : Object} {handle : Handle}
    (handed : exchange.handedOut? = some (object, handle)) : exchange.handle = handle := by
  cases exchange <;> cases handed <;> rfl

end Exchange

def handedOut (history : List Exchange) : List (Object × Handle) :=
  history.filterMap Exchange.handedOut?

theorem handedOut_append (earlier later : List Exchange) :
    handedOut (earlier ++ later) = handedOut earlier ++ handedOut later := by
  simp [handedOut]

theorem handedOut_of_wrap {object : Object} {handle : Handle} {state after : State}
    (ran : (wrapObject object).run state = (.ok handle, after)) :
    (object, handle) ∈ handedOut (wrapExchanges object state) := by
  unfold wrapExchanges Exchange.ofWrap
  rw [ran]
  simp only
  split <;> simp [handedOut, Exchange.handedOut?]

/-- What a later registry may differ in: handles below the counter keep their object or lose it. -/
structure Registry.Follows (before after : Registry) : Prop where
  next_le : before.next.number ≤ after.next.number
  resolve? : ∀ (handle : Handle) (object : Object), handle.number < before.next.number →
    after.resolve? handle = some object → before.resolve? handle = some object

namespace Registry.Follows

theorem refl (registry : Registry) : registry.Follows registry :=
  ⟨Nat.le_refl _, fun _ _ _ resolved => resolved⟩

theorem trans {first second third : Registry} (before : first.Follows second)
    (after : second.Follows third) : first.Follows third where
  next_le := Nat.le_trans before.next_le after.next_le
  resolve? handle object below resolved :=
    before.resolve? handle object below
      (after.resolve? handle object (Nat.lt_of_lt_of_le below before.next_le) resolved)

theorem resolve?_eq_none {before after : Registry} (follows : before.Follows after)
    {handle : Handle} (below : handle.number < before.next.number)
    (dead : before.resolve? handle = none) : after.resolve? handle = none := by
  cases resolved : after.resolve? handle with
  | none => rfl
  | some object =>
      rw [follows.resolve? handle object below resolved] at dead
      cases dead

theorem withEntry {registry : Registry} {handle : Handle} {entry other : Entry}
    (found : registry.entry? handle = some entry) (same : other.object = entry.object) :
    registry.Follows (registry.withEntry handle other) where
  next_le := Nat.le_refl _
  resolve? queried _ _ resolved := by rwa [resolve?_withEntry found same] at resolved

theorem register {registry : Registry} {object : Object} {next : Handle}
    (successor : registry.next.next? = some next) :
    registry.Follows (registry.register object next) where
  next_le := Nat.le_of_lt (Handle.lt_of_next? successor)
  resolve? queried _ below resolved := by
    have old : registry.next ≠ queried := by
      rintro rfl
      exact Nat.lt_irrefl _ below
    rwa [resolve?_register, if_neg old] at resolved

theorem remove (registry : Registry) (handle : Handle) (entry : Entry) :
    registry.Follows (registry.remove handle entry) where
  next_le := Nat.le_refl _
  resolve? queried object _ resolved := by
    rw [resolve?_remove] at resolved
    split at resolved
    · cases resolved
    · exact resolved

end Registry.Follows

namespace Custody

theorem Move.follows {custody after : Custody} {exchanges : List Exchange}
    (move : custody.Move exchanges after) : custody.registry.Follows after.registry := by
  cases move with
  | issue _ _ successor => exact .register successor
  | share _ known =>
      exact .withEntry (Registry.entry?_of_registration? known) rfl
  | lower found _ => exact .withEntry found rfl
  | close _ _ => exact .remove _ _ _
  | create _ _ _ | copy _ | drop _ | take _ => exact .refl _

theorem Move.next_le {custody after : Custody} {exchanges : List Exchange}
    (move : custody.Move exchanges after) :
    after.registry.next.number ≤ custody.registry.next.number + exchanges.length := by
  cases move with
  | issue _ _ successor => exact Nat.le_of_eq (Handle.number_of_next? successor)
  | share _ _ | lower _ _ | close _ _ => exact Nat.le_succ _
  | create _ _ _ | copy _ | drop _ | take _ => exact Nat.le_refl _

theorem Move.exchange_lt_next {custody after : Custody} {exchanges : List Exchange}
    (sound : custody.Sound) (move : custody.Move exchanges after) :
    ∀ exchange ∈ exchanges, exchange.handle.number < after.registry.next.number := by
  intro exchange member
  cases move with
  | issue _ _ successor =>
      cases List.mem_singleton.1 member
      exact Handle.lt_of_next? successor
  | share _ known =>
      cases List.mem_singleton.1 member
      exact sound.registry.lt_next (Registry.entry?_of_registration? known)
  | lower found _ =>
      cases List.mem_singleton.1 member
      exact sound.registry.lt_next found
  | close found _ =>
      cases List.mem_singleton.1 member
      exact sound.registry.lt_next found
  | create _ _ _ | copy _ | drop _ | take _ => cases member

theorem Move.resolve?_of_handedOut {custody after : Custody} {exchanges : List Exchange}
    (sound : custody.Sound) (move : custody.Move exchanges after) {object : Object}
    {handle : Handle} (wrapped : (object, handle) ∈ handedOut exchanges) :
    after.registry.resolve? handle = some object := by
  cases move with
  | issue _ _ _ =>
      cases List.mem_singleton.1 wrapped
      rw [Registry.resolve?_register, if_pos rfl]
  | share held known =>
      cases List.mem_singleton.1 wrapped
      exact sound.resolve?_of_share held known
  | lower _ _ | close _ _ | create _ _ _ | copy _ | drop _ | take _ => cases wrapped

/-- Only the last release ends a handle. -/
theorem Move.resolve?_stays {custody after : Custody} {exchanges : List Exchange}
    (sound : custody.Sound) (move : custody.Move exchanges after) {handle : Handle} {object : Object}
    (resolved : custody.registry.resolve? handle = some object)
    (kept : .closed handle ∉ exchanges) : after.registry.resolve? handle = some object := by
  cases move with
  | issue _ _ _ =>
      have dead := sound.registry.resolve?_next
      have different : custody.registry.next ≠ handle := by
        rintro rfl
        rw [dead] at resolved
        cases resolved
      rw [Registry.resolve?_register, if_neg different, resolved]
  | @share _ _ entry _ known =>
      have found := Registry.entry?_of_registration? known
      have same : entry.raise.object = entry.object := rfl
      rw [Registry.resolve?_withEntry found same, resolved]
  | @lower _ entry found _ =>
      have same : { entry with count := entry.count - 1 }.object = entry.object := rfl
      rw [Registry.resolve?_withEntry found same, resolved]
  | @close closed _ _ _ =>
      have different : closed ≠ handle := by
        rintro rfl
        exact kept List.mem_cons_self
      rw [Registry.resolve?_remove, if_neg different, resolved]
  | create _ _ _ | copy _ | drop _ | take _ => exact resolved

namespace Moves

variable {start custody : Custody} {history : List Exchange}

theorem resolve?_stays (sound : start.Sound) (moves : start.Moves history custody)
    {handle : Handle} {object : Object} (resolved : start.registry.resolve? handle = some object)
    (kept : .closed handle ∉ history) : custody.registry.resolve? handle = some object := by
  induction moves with
  | refl => exact resolved
  | tail earlier move ih =>
      rw [List.mem_append, not_or] at kept
      exact move.resolve?_stays (sound.moves earlier) (ih kept.1) kept.2

theorem follows (moves : start.Moves history custody) :
    start.registry.Follows custody.registry := by
  induction moves with
  | refl => exact .refl _
  | tail earlier move ih => exact ih.trans move.follows

theorem next_le (moves : start.Moves history custody) :
    custody.registry.next.number ≤ start.registry.next.number + history.length := by
  induction moves with
  | refl => exact Nat.le_refl _
  | tail _ move ih =>
      have step := move.next_le
      rw [List.length_append]
      omega

theorem exchange_lt_next (sound : start.Sound) (moves : start.Moves history custody) :
    ∀ exchange ∈ history, exchange.handle.number < custody.registry.next.number := by
  induction moves with
  | refl =>
      intro exchange member
      cases member
  | tail earlier move ih =>
      intro exchange member
      rcases List.mem_append.1 member with old | new
      · exact Nat.lt_of_lt_of_le (ih exchange old) move.follows.next_le
      · exact move.exchange_lt_next (sound.moves earlier) exchange new

theorem eq_of_handedOut (sound : start.Sound) (moves : start.Moves history custody)
    {object other : Object} {handle : Handle} (wrapped : (object, handle) ∈ handedOut history)
    (resolved : custody.registry.resolve? handle = some other) : other = object := by
  induction moves with
  | refl => cases wrapped
  | tail earlier move ih =>
      rw [handedOut_append, List.mem_append] at wrapped
      rcases wrapped with old | new
      · -- The counter is past the handle, so the move cannot give it to another object.
        obtain ⟨exchange, member, handed⟩ := List.mem_filterMap.1 old
        have below := exchange_lt_next sound earlier exchange member
        rw [Exchange.handle_of_handedOut? handed] at below
        exact ih old (move.follows.resolve? handle other below resolved)
      · have known := move.resolve?_of_handedOut (sound.moves earlier) new
        rw [known] at resolved
        exact (Option.some.inj resolved).symm

theorem not_handedOut_of_dead (sound : start.Sound) (moves : start.Moves history custody)
    {handle : Handle} (below : handle.number < start.registry.next.number)
    (dead : start.registry.resolve? handle = none) {object : Object} :
    (object, handle) ∉ handedOut history := by
  induction moves with
  | refl => exact List.not_mem_nil
  | tail earlier move ih =>
      rw [handedOut_append, List.mem_append, not_or]
      refine ⟨ih, ?_⟩
      intro new
      have alive := move.resolve?_of_handedOut (sound.moves earlier) new
      rw [(earlier.tail move).follows.resolve?_eq_none below dead] at alive
      cases alive

theorem issued_fresh (sound : start.Sound) (moves : start.Moves history custody) :
    history.Pairwise fun earlier later =>
      ∀ object handle, later = .issued object handle → earlier.handle ≠ handle := by
  induction moves with
  | refl => exact .nil
  | tail earlier move ih =>
      rw [List.pairwise_append]
      refine ⟨ih, ?_, ?_⟩
      · cases move <;> simp
      · intro old oldMember new newMember object handle issued
        have below := exchange_lt_next sound earlier old oldMember
        subst issued
        cases move with
        | issue _ _ _ =>
            cases List.mem_singleton.1 newMember
            rintro same
            rw [same] at below
            exact Nat.lt_irrefl _ below
        | share _ _ | lower _ _ | close _ _ => cases List.mem_singleton.1 newMember
        | create _ _ _ | copy _ | drop _ | take _ => cases newMember

end Moves

end Custody

/-- A handle returned by a wrap stands for the object that was wrapped or for nothing, and once for
nothing then forever; no registration gets the handle of an earlier one. So a handle that comes back
from native code is decoded to its own object or ends the process. -/
theorem handle_keeps_meaning {history : List Exchange} {world : World}
    (run : World.initial.Run history world) {object : Object} {handle : Handle}
    (wrapped : (object, handle) ∈ handedOut history) :
    (((resolveHandle handle).run world.state).1 = .ok (some object) ∨
        ((resolveHandle handle).run world.state).1 = .ok none) ∧
      (((resolveHandle handle).run world.state).1 = .ok none →
        ∀ later after, world.Run later after →
          ((resolveHandle handle).run after.state).1 = .ok none ∧
            ∀ other, (other, handle) ∉ handedOut later) ∧
      (history.Pairwise fun earlier later =>
        ∀ newObject newHandle, later = .issued newObject newHandle →
          earlier.handle ≠ newHandle) ∧
      ∀ record : NativeRecord, record.tag? = some .ownedHandle →
        record.payload.toAddress = handle.number →
          ((unpack record).run world.state).1 = .ok (some (.object object)) ∨
            ((unpack record).run world.state).1 = .error (.abort .strayHandle) := by
  have moves := run.moves .empty
  have sound := run.sound
  have meaning : world.registry.resolve? handle = some object ∨
      world.registry.resolve? handle = none := by
    cases resolved : world.registry.resolve? handle with
    | none => exact Or.inr rfl
    | some other =>
        have same := moves.eq_of_handedOut .empty wrapped resolved
        exact Or.inl (by rw [same])
  have below : handle.number < world.registry.next.number := by
    obtain ⟨exchange, member, handed⟩ := List.mem_filterMap.1 wrapped
    have reached := moves.exchange_lt_next .empty exchange member
    rwa [Exchange.handle_of_handedOut? handed] at reached
  simp only [run_resolveHandle, Except.ok.injEq]
  refine ⟨meaning, ?_, moves.issued_fresh .empty, ?_⟩
  · intro dead later after continued
    have further := continued.moves sound
    have stays : after.registry.resolve? handle = none :=
      further.follows.resolve?_eq_none below dead
    exact ⟨stays, fun other again => further.not_handedOut_of_dead sound below dead again⟩
  · intro record tagged carries
    rw [unpack_result_of_handle tagged carries]
    rcases meaning with alive | dead
    · simp [alive]
    · simp [dead]

theorem handle_keeps_meaning_after_reuse :
    ∃ world, World.initial.Run World.reuseHistory world ∧
      (World.firstObject, .first) ∈ handedOut World.reuseHistory ∧
      ((resolveHandle .first).run world.state).1 = .ok none ∧
      ∀ later after, world.Run later after →
        ((resolveHandle .first).run after.state).1 = .ok none := by
  obtain ⟨world, run, dead⟩ : ∃ world, World.initial.Run World.reuseHistory world ∧
      decide (world.registry.resolve? .first = none) = true :=
    World.exists_run World.addressReuse (by decide +kernel)
  have wrapped : (World.firstObject, .first) ∈ handedOut World.reuseHistory := by decide
  have unresolved : ((resolveHandle .first).run world.state).1 = .ok none := by
    rw [run_resolveHandle, of_decide_eq_true dead]
  obtain ⟨_, stays, _⟩ := handle_keeps_meaning run wrapped
  exact ⟨world, run, wrapped, unresolved, fun later after continued =>
    (stays unresolved later after continued).1⟩

end Boundary
