import Boundary.Proofs.Handles.Identity
import Mathlib.Data.Finset.Dedup
import Mathlib.Data.Finset.Card

/-!
Counting references. The count of a handle is how often it was handed out less how often it was taken
back, over the whole history, as long as no handle is handed out more often than a count can say.
-/

namespace Boundary

namespace Exchange

@[simp] def isWrapOf (handle : Handle) : Exchange → Bool
  | issued _ other | shared _ other => other = handle
  | returned _ | closed _ => false

@[simp] def isReleaseOf (handle : Handle) : Exchange → Bool
  | issued _ _ | shared _ _ => false
  | returned other | closed other => other = handle

end Exchange

def wraps (history : List Exchange) (handle : Handle) : Nat :=
  history.countP (Exchange.isWrapOf handle)

def releases (history : List Exchange) (handle : Handle) : Nat :=
  history.countP (Exchange.isReleaseOf handle)

/-- At no point of a history are more wraps of a handle outstanding than a count can say. -/
def Countable (history : List Exchange) : Prop :=
  ∀ earlier, earlier <+: history → ∀ handle,
    wraps earlier handle ≤ releases earlier handle + Entry.greatestCount

def outstanding (history : List Exchange) : Finset Object :=
  (((handedOut history).filter fun pair =>
    releases history pair.2 < wraps history pair.2).map Prod.fst).toFinset

theorem wraps_append (earlier later : List Exchange) (handle : Handle) :
    wraps (earlier ++ later) handle = wraps earlier handle + wraps later handle :=
  List.countP_append

theorem releases_append (earlier later : List Exchange) (handle : Handle) :
    releases (earlier ++ later) handle = releases earlier handle + releases later handle :=
  List.countP_append

@[simp] theorem wraps_singleton (exchange : Exchange) (handle : Handle) :
    wraps [exchange] handle = if exchange.isWrapOf handle then 1 else 0 :=
  List.countP_singleton

@[simp] theorem releases_singleton (exchange : Exchange) (handle : Handle) :
    releases [exchange] handle = if exchange.isReleaseOf handle then 1 else 0 :=
  List.countP_singleton

theorem exists_handedOut_of_wraps_pos {history : List Exchange} {handle : Handle}
    (positive : 0 < wraps history handle) : ∃ object, (object, handle) ∈ handedOut history := by
  obtain ⟨exchange, member, wrapped⟩ := List.countP_pos_iff.1 positive
  cases exchange with
  | issued object other | shared object other =>
      obtain rfl : other = handle := of_decide_eq_true wrapped
      exact ⟨object, List.mem_filterMap.2 ⟨_, member, rfl⟩⟩
  | returned _ | closed _ => cases wrapped

theorem mem_outstanding {history : List Exchange} {object : Object} :
    object ∈ outstanding history ↔
      ∃ handle, (object, handle) ∈ handedOut history ∧
        releases history handle < wraps history handle := by
  simp [outstanding]

namespace Custody

variable {start custody after : Custody} {history exchanges : List Exchange}

/-- A move changes the count of a handle by what it exchanges, if the count has room. -/
theorem Move.count_balance (sound : custody.Sound) (move : custody.Move exchanges after)
    (handle : Handle)
    (room : custody.registry.count handle + wraps exchanges handle ≤
      releases exchanges handle + Entry.greatestCount) :
    after.registry.count handle + releases exchanges handle =
      custody.registry.count handle + wraps exchanges handle := by
  cases move with
  | issue _ _ _ =>
      have fresh := Registry.count_of_missing sound.registry.entry?_next
      rw [Registry.count_register]
      by_cases here : custody.registry.next = handle
      · subst here
        simp [fresh]
      · simp [here]
  | @share _ shared entry _ known =>
      have found := Registry.entry?_of_registration? known
      rw [Registry.count_withEntry]
      by_cases here : shared = handle
      · subst here
        have count := Registry.count_of_found found
        -- Only here can a count stop short, so only here is the room of the history needed.
        have fits : entry.count + 1 ≤ Entry.greatestCount := by
          simpa [count] using room
        have raised : entry.raise.count = entry.count + 1 := Nat.min_eq_left fits
        simp [count, raised]
      · simp [here]
  | @lower returned entry found several =>
      rw [Registry.count_withEntry]
      by_cases here : returned = handle
      · subst here
        have count := Registry.count_of_found found
        have lowered : entry.count - 1 + 1 = entry.count := Nat.sub_add_cancel (Nat.le_of_lt several)
        simp [count, lowered]
      · simp [here]
  | @close closed entry found last =>
      rw [Registry.count_remove]
      by_cases here : closed = handle
      · subst here
        have count := Registry.count_of_found found
        simp [count, last]
      · simp [here]
  | create _ _ _ | copy _ | drop _ | take _ => rfl

theorem Moves.count_balance (sound : start.Sound) (moves : start.Moves history custody)
    (room : ∀ earlier, earlier <+: history → ∀ handle,
      start.registry.count handle + wraps earlier handle ≤
        releases earlier handle + Entry.greatestCount)
    (handle : Handle) :
    custody.registry.count handle + releases history handle =
      start.registry.count handle + wraps history handle := by
  induction moves with
  | refl => rfl
  | tail earlier move ih =>
      -- The balance so far turns the room of the whole history into room for the last move.
      have before := ih fun first isFirst => room first (isFirst.trans (List.prefix_append _ _))
      have total := room _ List.prefix_rfl handle
      rw [wraps_append, releases_append] at total ⊢
      have step := move.count_balance (sound.moves earlier) handle (by omega)
      omega

theorem Sound.live_eq_card (sound : custody.Sound) {objects : Finset Object}
    (mem : ∀ object, object ∈ objects ↔
      ∃ handle, custody.registry.resolve? handle = some object) :
    custody.registry.live = objects.card := by
  have entry_of_mem {pair : Nat × Entry} (member : pair ∈ custody.registry.entries.toList) :
      custody.registry.entries[pair.1]? = some pair.2 :=
    Std.TreeMap.mem_toList_iff_getElem?_eq_some.1 member
  have nodup : (custody.registry.entries.toList.map fun pair => pair.2.object).Nodup := by
    rw [List.Nodup, List.pairwise_map]
    apply List.Pairwise.imp_of_mem _ custody.registry.entries.distinct_keys_toList
    intro left right leftMember rightMember different same
    -- Entries for one object have one address, whose handle gives both their numbers.
    obtain ⟨leftHandle, leftMapped, leftNumber⟩ :=
      sound.registry.handle_of_entry _ _ (entry_of_mem leftMember)
    obtain ⟨rightHandle, rightMapped, rightNumber⟩ :=
      sound.registry.handle_of_entry _ _ (entry_of_mem rightMember)
    rw [same, rightMapped] at leftMapped
    cases leftMapped
    exact different (by simp [← leftNumber, ← rightNumber])
  have same : (custody.registry.entries.toList.map fun pair => pair.2.object).toFinset =
      objects := by
    ext object
    rw [List.mem_toFinset, List.mem_map, mem]
    constructor
    · rintro ⟨pair, member, rfl⟩
      obtain ⟨handle, _, number⟩ := sound.registry.handle_of_entry _ _ (entry_of_mem member)
      have found : custody.registry.entry? handle = some pair.2 := by
        rw [Registry.entry?, number]
        exact entry_of_mem member
      exact ⟨handle, Registry.resolve?_of_found found⟩
    · rintro ⟨handle, resolved⟩
      obtain ⟨entry, found, rfl⟩ := (Registry.resolve?_eq_some_iff _ _ _).1 resolved
      exact ⟨(handle.number, entry),
        Std.TreeMap.mem_toList_iff_getElem?_eq_some.2 found, rfl⟩
  rw [← same, List.toFinset_card_of_nodup nodup, List.length_map, Std.TreeMap.length_toList]
  rfl

end Custody

/-- Over any run in which counts have room, the count of a handle is its wraps less its releases; it
resolves, and its release succeeds, exactly while there are more wraps; handles that pass by, and
decoding, change no count; and the live entries are the objects with an outstanding wrap. -/
theorem counts_follow_history {history : List Exchange} {world : World}
    (run : World.initial.Run history world) (countable : Countable history) :
    (∀ handle, world.registry.count handle + releases history handle = wraps history handle) ∧
      (∀ handle, ((resolveHandle handle).run world.state).1 ≠ .ok none ↔
        releases history handle < wraps history handle) ∧
      (∀ handle, ((releaseHandle handle).run world.state).1 =
        .ok (world.registry.resolve? handle).isSome) ∧
      (∀ platform handle,
        ((pack platform (.handle handle)).run world.state).2.registry = world.registry) ∧
      (∀ handle, ((resolveHandle handle).run world.state).2.registry = world.registry) ∧
      (∀ record, ((unpack record).run world.state).2.registry = world.registry) ∧
      (∀ records, ((unpackAll records).run world.state).2.registry = world.registry) ∧
      world.registry.live = (outstanding history).card := by
  have moves := run.moves .empty
  have sound := run.sound
  have consistent : world.registry.Consistent := sound.registry
  have unused (handle : Handle) : World.initial.custody.registry.count handle = 0 :=
    Registry.count_of_missing (by simp [World.initial, World.custody, State.custody,
      Registry.entry?])
  have room : ∀ earlier, earlier <+: history → ∀ handle,
      World.initial.custody.registry.count handle + wraps earlier handle ≤
        releases earlier handle + Entry.greatestCount := by
    intro earlier isEarlier handle
    rw [unused, Nat.zero_add]
    exact countable earlier isEarlier handle
  have balance (handle : Handle) :
      world.registry.count handle + releases history handle = wraps history handle := by
    have initially : World.initial.custody.Sound := .empty
    have counted := moves.count_balance initially room handle
    rw [unused, Nat.zero_add] at counted
    exact counted
  have resolves_iff (handle : Handle) : (world.registry.resolve? handle).isSome = true ↔
      releases history handle < wraps history handle := by
    have counted := balance handle
    rw [consistent.resolve?_isSome_iff]
    omega
  refine ⟨balance, ?_, releaseHandle_result sound, fun _ _ => rfl, ?_,
    fun record => unpack_registry record _, fun records => unpackAll_registry records _, ?_⟩
  · intro handle
    rw [run_resolveHandle, ← resolves_iff]
    cases world.registry.resolve? handle <;> simp
  · intro handle
    rw [run_resolveHandle]
    cases world.registry.resolve? handle <;> rfl
  · apply sound.live_eq_card
    intro object
    rw [mem_outstanding]
    constructor
    · rintro ⟨handle, wrapped, open_⟩
      obtain ⟨other, resolved⟩ := Option.isSome_iff_exists.1 ((resolves_iff handle).2 open_)
      have same := moves.eq_of_handedOut .empty wrapped resolved
      exact ⟨handle, same ▸ resolved⟩
    · rintro ⟨handle, resolved⟩
      have more := (resolves_iff handle).1 (Option.isSome_iff_exists.2 ⟨object, resolved⟩)
      obtain ⟨other, wrapped⟩ := exists_handedOut_of_wraps_pos (Nat.zero_lt_of_lt more)
      have same := moves.eq_of_handedOut .empty wrapped resolved
      exact ⟨handle, same ▸ wrapped, more⟩

theorem counts_after_reuse :
    ∃ world, World.initial.Run World.reuseHistory world ∧ Countable World.reuseHistory ∧
      world.registry.resolve? World.third = some World.secondObject ∧
      world.registry.count .first + 2 = 2 ∧ world.registry.count World.third + 0 = 1 ∧
      world.registry.live = 1 := by
  obtain ⟨world, run, resolved⟩ : ∃ world, World.initial.Run World.reuseHistory world ∧
      decide (world.registry.resolve? World.third = some World.secondObject) = true :=
    World.exists_run World.addressReuse (by decide +kernel)
  have countable : Countable World.reuseHistory := by
    intro earlier isEarlier handle
    have few : wraps earlier handle ≤ 7 := List.countP_le_length.trans isEarlier.length_le
    exact (few.trans (by decide)).trans (Nat.le_add_left _ _)
  obtain ⟨count, _, _, _, _, _, _, live⟩ := counts_follow_history run countable
  exact ⟨world, run, countable, of_decide_eq_true resolved, count .first, count World.third, live⟩

end Boundary
