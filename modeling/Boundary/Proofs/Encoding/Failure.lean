import Boundary.Proofs.Bridge.Guard
import Boundary.Proofs.Encoding.Form
import Boundary.Proofs.Registry.Undo

/-!
Batches that fail on the way. Main statement: a batch that ends at a value of its own leaves the state
that the values before it lead to, so their objects stay handed out although no record names them.
-/

namespace Boundary

namespace Registry

/-- The registry after a batch of values was encoded: their objects were handed out, each as often as
it occurs, and nothing else happened. -/
structure HandsOut (before : Registry) (values : List Value) (after : Registry) : Prop where
  stays : ∀ handle object, before.resolve? handle = some object →
    after.resolve? handle = some object
  given : ∀ object, .object object ∈ values → ∃ handle, after.resolve? handle = some object
  origin : ∀ handle object, after.resolve? handle = some object →
    before.resolve? handle = some object ∨
      before.resolve? handle = none ∧ .object object ∈ values
  count : ∀ handle object, after.resolve? handle = some object →
    after.count handle =
      min (before.count handle + values.count (.object object)) Entry.greatestCount
  reach : ∀ rest, after.reach rest = before.reach (values ++ rest)
  advance : after.live + before.next.number = before.live + after.next.number

namespace HandsOut

variable {registry before middle after : Registry} {object : Object}

theorem nil (fits : registry.CountsFit) : registry.HandsOut [] registry where
  stays _ _ resolved := resolved
  given _ member := absurd member List.not_mem_nil
  origin _ _ resolved := .inl resolved
  count handle _ _ := (Nat.min_eq_left (fits handle)).symm
  reach _ := rfl
  advance := rfl

theorem plain (fits : registry.CountsFit) {value : Value} (plain : value.object? = none) :
    registry.HandsOut [value] registry where
  stays _ _ resolved := resolved
  given object member := by
    rw [← List.mem_singleton.1 member] at plain
    cases plain
  origin _ _ resolved := .inl resolved
  count handle object _ := by
    have different : value ≠ .object object := by
      rintro rfl
      cases plain
    rw [List.count_singleton, if_neg (by simpa using different)]
    exact (Nat.min_eq_left (fits handle)).symm
  reach rest := (registry.reach_cons_of_plain plain rest).symm
  advance := rfl

theorem share (consistent : registry.Consistent) (fits : registry.CountsFit) {handle : Handle}
    {entry : Entry} (found : registry.entry? handle = some entry) :
    registry.HandsOut [.object entry.object] (registry.withEntry handle entry.raise) where
  stays other object resolved := by
    rw [resolve?_withEntry found (by rfl)]
    exact resolved
  given object member := by
    cases List.mem_singleton.1 member
    exact ⟨handle, by rw [resolve?_withEntry found (by rfl), resolve?_of_found found]⟩
  origin other object resolved := by
    rw [resolve?_withEntry found (by rfl)] at resolved
    exact .inl resolved
  count other object resolved := by
    rw [resolve?_withEntry found (by rfl)] at resolved
    rw [count_withEntry, List.count_singleton]
    by_cases here : handle = other
    · subst here
      rw [resolve?_of_found found] at resolved
      cases resolved
      rw [if_pos rfl, if_pos (beq_self_eq_true _), count_of_found found]
      rfl
    · have different : entry.object ≠ object := by
        rintro rfl
        exact here (consistent.eq_of_resolve? (resolve?_of_found found) resolved)
      rw [if_neg here, if_neg (by simpa using different)]
      exact (Nat.min_eq_left (fits other)).symm
  reach rest := by
    have holds : registry.holds entry.object = true :=
      (consistent.holds_iff _).2 ⟨handle, resolve?_of_found found⟩
    have kept : entry.raise.object = entry.object := rfl
    exact reach_cons_of_known consistent holds found kept (Entry.raise_count_pos entry) rest
  advance := by rw [live_withEntry found, withEntry]

theorem issue (consistent : registry.Consistent) (fits : registry.CountsFit) {next : Handle}
    (unknown : registry.registration? object = none)
    (successor : registry.next.next? = some next) :
    registry.HandsOut [.object object] (registry.register object next) where
  stays handle other resolved := by
    have different : registry.next ≠ handle := by
      rintro rfl
      rw [consistent.resolve?_next] at resolved
      cases resolved
    rw [resolve?_register, if_neg different, resolved]
  given other member := by
    cases List.mem_singleton.1 member
    exact ⟨registry.next, by rw [resolve?_register, if_pos rfl]⟩
  origin handle other resolved := by
    rw [resolve?_register] at resolved
    split at resolved
    · rename_i here
      cases resolved
      exact .inr ⟨here ▸ consistent.resolve?_next, List.mem_singleton_self _⟩
    · exact .inl resolved
  count handle other resolved := by
    rw [resolve?_register] at resolved
    rw [count_register, List.count_singleton]
    by_cases here : registry.next = handle
    · rw [if_pos here] at resolved
      cases resolved
      rw [if_pos here, if_pos (beq_self_eq_true _), ← here,
        count_of_resolve?_none consistent.resolve?_next]
      rfl
    · rw [if_neg here] at resolved
      have different : object ≠ other := by
        rintro rfl
        obtain ⟨entry, found, same⟩ := (resolve?_eq_some_iff _ _ _).1 resolved
        have known := (consistent.registration?_eq_some_iff object handle entry).2
          ⟨found, by rw [same]⟩
        rw [unknown] at known
        cases known
      rw [if_neg here, if_neg (by simpa using different)]
      exact (Nat.min_eq_left (fits handle)).symm
  reach rest := reach_cons_of_unknown consistent unknown successor rest
  advance := by
    have counted : (registry.register object next).next.number = registry.next.number + 1 :=
      Handle.number_of_next? successor
    rw [live_register consistent.entry?_next, counted]
    omega

theorem dead_before {values : List Value} (handed : before.HandsOut values after) {handle : Handle}
    (dead : after.resolve? handle = none) : before.resolve? handle = none := by
  by_contra known
  obtain ⟨object, resolved⟩ := Option.ne_none_iff_exists'.1 known
  rw [handed.stays handle object resolved] at dead
  cases dead

theorem trans {earlier later : List Value} (first : before.HandsOut earlier middle)
    (second : middle.HandsOut later after) (consistent : after.Consistent) :
    before.HandsOut (earlier ++ later) after where
  stays handle object resolved := second.stays handle object (first.stays handle object resolved)
  given object member := by
    rcases List.mem_append.1 member with among | among
    · obtain ⟨handle, resolved⟩ := first.given object among
      exact ⟨handle, second.stays handle object resolved⟩
    · exact second.given object among
  origin handle object resolved := by
    rcases second.origin handle object resolved with known | ⟨dead, among⟩
    · rcases first.origin handle object known with known | ⟨dead, among⟩
      · exact .inl known
      · exact .inr ⟨dead, List.mem_append_left _ among⟩
    · exact .inr ⟨first.dead_before dead, List.mem_append_right _ among⟩
  count handle object resolved := by
    have last := second.count handle object resolved
    rw [List.count_append]
    rcases second.origin handle object resolved with known | ⟨dead, _⟩
    · have start := first.count handle object known
      omega
    · -- A handle that only the later values brought was not there for the earlier ones.
      have unused : earlier.count (.object object) = 0 := by
        rw [List.count_eq_zero]
        intro among
        obtain ⟨other, otherResolved⟩ := first.given object among
        have same := consistent.eq_of_resolve? resolved (second.stays other object otherResolved)
        rw [← same, dead] at otherResolved
        cases otherResolved
      rw [last, unused, count_of_resolve?_none dead,
        count_of_resolve?_none (first.dead_before dead), Nat.zero_add, Nat.zero_add]
  reach rest := by rw [second.reach, first.reach, List.append_assoc]
  advance := by
    have start := first.advance
    have last := second.advance
    omega

theorem live_eq {values : List Value} (handed : before.HandsOut values after) :
    after.live = before.live + (before.unregistered values).card := by
  have reached : after.next.number + (after.unregistered []).card =
      before.next.number + (before.unregistered (values ++ [])).card := handed.reach []
  have none : (after.unregistered []).card = 0 := rfl
  have advance := handed.advance
  rw [List.append_nil] at reached
  omega

end HandsOut

end Registry

section Batch

variable {platform : Platform} {state after : State} {held : Multiset Object}

theorem pack_handsOut (sound : (state.custody held).Sound) (fits : state.registry.CountsFit)
    {value : Value} (owned : ∀ object, value.object? = some object → object ∈ held)
    {record : Record} (ran : (pack platform value).run state = (.ok record, after)) :
    state.registry.HandsOut [value] after.registry := by
  have consistent : state.registry.Consistent := sound.registry
  cases kind : value.object? with
  | none =>
      have kept : ((pack platform value).run state).2.custody held = state.custody held :=
        pack_custody_of_plain kind state held
      rw [ran] at kept
      have same : after.registry = state.registry := congrArg Custody.registry kept
      rw [same]
      exact .plain fits kind
  | some object =>
      obtain rfl := Value.eq_object_of_object? kind
      have wrapped : ((pack platform (.object object)).run state).2.custody held =
          ((wrapObject object).run state).2.custody held :=
        pack_custody_of_object object state held
      rw [ran] at wrapped
      have same : after.registry = ((wrapObject object).run state).2.registry :=
        congrArg Custody.registry wrapped
      cases known : state.registry.registration? object with
      | some registration =>
          obtain ⟨handle, entry⟩ := registration
          have found := Registry.entry?_of_registration? known
          obtain rfl := sound.object_of_registration? (sound.live_of_held (owned object rfl)) known
          rw [same, run_wrapObject_of_known known]
          exact .share consistent fits found
      | none =>
          cases successor : state.registry.next.next? with
          | none =>
              rw [run_pack, run_encodeContents_object,
                run_wrapObject_of_exhausted known successor] at ran
              cases ran
          | some next =>
              rw [same, run_wrapObject_of_unknown known consistent.resolve?_next successor]
              exact .issue consistent fits known successor

theorem packAll_handsOut (sound : (state.custody held).Sound) (fits : state.registry.CountsFit)
    {values : List Value}
    (owned : ∀ value ∈ values, ∀ object, value.object? = some object → object ∈ held)
    {records : List Record} (ran : (packAll platform values).run state = (.ok records, after)) :
    state.registry.HandsOut values after.registry := by
  -- Each value is handed out on its own, and what the others hand out comes on top of it.
  induction values generalizing state records with
  | nil =>
      cases ran
      exact .nil fits
  | cons value rest ih =>
      have first : (state.custody held).Moves _ (((pack platform value).run state).2.custody held) :=
        pack_moves sound (owned value List.mem_cons_self)
      have ownedRest : ∀ other ∈ rest, ∀ object, other.object? = some object → object ∈ held :=
        fun other member => owned other (List.mem_cons_of_mem _ member)
      rw [run_packAll_cons] at ran
      rcases firstRan : (pack platform value).run state with ⟨halt | record, middle⟩
      · rw [firstRan] at ran
        cases ran
      · rw [firstRan] at first ran
        have soundMiddle := sound.moves first
        have later : (middle.custody held).Moves _
            (((packAll platform rest).run middle).2.custody held) :=
          packAll_moves soundMiddle ownedRest
        rcases restRan : (packAll platform rest).run middle with ⟨halt | others, final⟩
        · simp only [restRan] at ran
          cases ran
        · simp only [restRan] at ran
          cases ran
          rw [restRan] at later
          have head := pack_handsOut sound fits (owned value List.mem_cons_self) firstRan
          have tail := ih soundMiddle (first.countsFit fits) ownedRest restRan
          exact head.trans tail (soundMiddle.moves later).registry

/-- A batch that panics has encoded the values before the one at fault, and nothing of that one. -/
theorem packAll_panic_split {values : List Value} {cause : Panic}
    (failed : (packAll platform values).run state = (.error (.panic cause), after)) :
    ∃ earlier failing later records, values = earlier ++ failing :: later ∧
      (packAll platform earlier).run state = (.ok records, after) ∧
      (pack platform failing).run after = (.error (.panic cause), after) := by
  -- A value that is refused changes nothing, so the state is the one its forerunners left.
  induction values generalizing state with
  | nil => cases failed
  | cons value rest ih =>
      have ends := pack_ends platform state value
      rw [run_packAll_cons] at failed
      rcases firstRan : (pack platform value).run state with ⟨halt | record, middle⟩
      · rw [firstRan] at failed ends
        cases failed
        cases ends
        exact ⟨[], value, rest, [], rfl, rfl, firstRan⟩
      · rw [firstRan] at failed
        rcases restRan : (packAll platform rest).run middle with ⟨halt | records, final⟩
        · simp only [restRan] at failed
          cases failed
          obtain ⟨earlier, failing, later, records, rfl, encoded, refused⟩ := ih restRan
          refine ⟨value :: earlier, failing, later, record :: records, rfl, ?_, refused⟩
          rw [run_packAll_cons, firstRan]
          simp only [encoded]
        · simp only [restRan] at failed
          cases failed

theorem pack_panic_cases {value : Value} {cause : Panic}
    (failed : (pack platform value).run state = (.error (.panic cause), after)) :
    (∃ number, value = .int number ∧ cause = .integerTooWide number) ∨
      (∃ text, value = .string text ∧ cause = .textTooLong (Utf8.bytes text).length) ∨
      ∃ registrations, cause = .handlesExhausted registrations := by
  cases value with
  | int number =>
      cases platform with
      | wide => cases failed
      | narrow =>
          rw [run_pack, encodeContents, encodePlatformInteger] at failed
          by_cases fits : number.toInt32.toInt64 = number
          · rw [if_pos fits] at failed
            cases failed
          · rw [if_neg fits] at failed
            cases failed
            exact .inl ⟨number, rfl, rfl⟩
  | string text =>
      rw [run_pack, encodeContents, checkedLength] at failed
      by_cases short : (Utf8.bytes text).length ≤ greatestLength
      · rw [if_pos short] at failed
        cases failed
      · rw [if_neg short] at failed
        cases failed
        exact .inr (.inl ⟨text, rfl, rfl⟩)
  | object object =>
      rw [run_pack, run_encodeContents_object] at failed
      cases wrapped : state.registry.wrap? object with
      | none =>
          rw [run_wrapObject_of_refused wrapped] at failed
          cases failed
          exact .inr (.inr ⟨_, rfl⟩)
      | some pair =>
          obtain ⟨_, ran, _⟩ := wrapObject_of_wrap? wrapped
          rw [ran] at failed
          cases failed
  | bool _ | int32 _ | int64 _ | float32 _ | float64 _ | handle _ => cases failed

end Batch

/-- In every run, when a batch that passes the thread guard panics because an integer is too wide or a
text too long, the state is the one that the values before that value lead to. Handles keep what they
resolve to. Each object among those values is handed out as often as it occurs there, whether it was
registered before or not, and every new entry is for one of them; counts stop at the greatest. If
there is no object before the value at fault, the registry is as it was before the call. -/
theorem failed_batch_hands_out_earlier_objects {history : List Exchange} {world : World}
    (run : World.initial.Run history world) {bridge : Bridge} {thread : Thread}
    (passes : bridge.checks = false ∨ thread = bridge.home) {values : List Value}
    (permitted : world.Permits (.packAll bridge.platform values)) {cause : Panic} {after : State}
    (failed : (bridge.packAll thread values).run world.state = (.error (.panic cause), after))
    (misfit : (∃ number, cause = .integerTooWide number) ∨ ∃ size, cause = .textTooLong size) :
    ∃ earlier failing later, values = earlier ++ failing :: later ∧
      ((∃ number, failing = .int number ∧ cause = .integerTooWide number) ∨
        ∃ text, failing = .string text ∧ cause = .textTooLong (Utf8.bytes text).length) ∧
      (∃ records, (bridge.packAll thread earlier).run world.state = (.ok records, after)) ∧
      (∀ handle object, world.registry.resolve? handle = some object →
        after.registry.resolve? handle = some object) ∧
      (∀ object, .object object ∈ earlier →
        ∃ handle, after.registry.resolve? handle = some object) ∧
      (∀ handle object, after.registry.resolve? handle = some object →
        (world.registry.resolve? handle = some object ∨
          world.registry.resolve? handle = none ∧ .object object ∈ earlier) ∧
        after.registry.count handle =
          min (world.registry.count handle + earlier.count (.object object))
            Entry.greatestCount) ∧
      after.registry.live = world.registry.live + (world.registry.unregistered earlier).card ∧
      ((∀ object, .object object ∉ earlier) → after.registry = world.registry) := by
  have unguarded (batch : List Value) :
      bridge.packAll thread batch = packAll bridge.platform batch := by
    apply Bridge.packAll_of_passes
    intro value _
    rcases passes with unchecked | rfl
    · exact Bridge.stops_of_unchecked unchecked thread value
    · exact bridge.stops_home value
  rw [unguarded] at failed
  obtain ⟨earlier, failing, later, records, rfl, ran, refused⟩ := packAll_panic_split failed
  have owned : ∀ value ∈ earlier, ∀ object, value.object? = some object → object ∈ world.held :=
    fun value member => permitted value (List.mem_append_left _ member)
  have handed := packAll_handsOut run.sound run.countsFit owned ran
  refine ⟨earlier, failing, later, rfl, ?_, ⟨records, by rw [unguarded, ran]⟩, handed.stays,
    handed.given, ?_, handed.live_eq, ?_⟩
  · rcases pack_panic_cases refused with tooWide | tooLong | ⟨_, rfl⟩
    · exact .inl tooWide
    · exact .inr tooLong
    · rcases misfit with ⟨_, other⟩ | ⟨_, other⟩
      · cases other
      · cases other
  · intro handle object resolved
    exact ⟨handed.origin handle object resolved, handed.count handle object resolved⟩
  · intro objectless
    have plain : ∀ value ∈ earlier, value.object? = none := by
      intro value member
      cases kind : value.object? with
      | none => rfl
      | some object =>
          exact absurd (Value.eq_object_of_object? kind ▸ member) (objectless object)
    have kept := packAll_registry_of_plain bridge.platform plain world.state
    rw [ran] at kept
    exact kept

theorem failed_batch_shares_registered_object :
    ∃ world after, World.initial.Run [.issued World.firstObject .first] world ∧
      (Sample.guarded.packAll 0 Sample.mixedBatch).run world.state =
        (.error (.panic (.integerTooWide 0x80000000)), after) ∧
      ∃ earlier failing later, Sample.mixedBatch = earlier ++ failing :: later ∧
        (∃ records, (Sample.guarded.packAll 0 earlier).run world.state = (.ok records, after)) ∧
        after.registry.count .first =
          min (1 + earlier.count (.object World.firstObject)) Entry.greatestCount := by
  obtain ⟨world, run, checked⟩ : ∃ world,
      World.initial.Run [.issued World.firstObject .first] world ∧
        decide (world.Permits (.packAll .narrow Sample.mixedBatch) ∧
          world.registry.resolve? .first = some World.firstObject ∧
          world.registry.count .first = 1 ∧
          ((Sample.guarded.packAll 0 Sample.mixedBatch).run world.state).1 =
            .error (.panic (.integerTooWide 0x80000000))) = true :=
    World.exists_run [.create World.firstObject.content 16, .wrap World.firstObject]
      (by decide +kernel)
  obtain ⟨permitted, registered, once, panicked⟩ := of_decide_eq_true checked
  have failed : (Sample.guarded.packAll 0 Sample.mixedBatch).run world.state =
      (.error (.panic (.integerTooWide 0x80000000)), _) := Prod.ext panicked rfl
  obtain ⟨earlier, failing, later, split, _, encoded, stays, _, handles, _, _⟩ :=
    failed_batch_hands_out_earlier_objects run (.inr rfl) permitted failed (.inl ⟨_, rfl⟩)
  obtain ⟨_, count⟩ := handles .first World.firstObject (stays .first _ registered)
  rw [once] at count
  exact ⟨world, _, run, failed, earlier, failing, later, split, encoded, count⟩

/-- An object handed out for a batch that then fails stays handed out. -/
theorem failed_batch_leaves_new_entry :
    ∃ world after, World.initial.Run [] world ∧
      world.Permits (.packAll Sample.guarded.platform Sample.mixedBatch) ∧
      (Sample.guarded.packAll Sample.guarded.home Sample.mixedBatch).run world.state =
        (.error (.panic (.integerTooWide 0x80000000)), after) ∧
      world.registry.live = 0 ∧ world.registry.count .first = 0 ∧
      world.registry.resolve? .first = none ∧
      after.registry.live = 1 ∧ after.registry.count .first = 1 ∧
      after.registry.resolve? .first = some World.firstObject := by
  obtain ⟨world, run, checked⟩ : ∃ world, World.initial.Run [] world ∧
      decide (world.Permits (.packAll .narrow Sample.mixedBatch) ∧
        ((Sample.guarded.packAll 0 Sample.mixedBatch).run world.state).1 =
          .error (.panic (.integerTooWide 0x80000000)) ∧
        world.registry.live = 0 ∧ world.registry.count .first = 0 ∧
        world.registry.resolve? .first = none ∧
        let after := ((Sample.guarded.packAll 0 Sample.mixedBatch).run world.state).2
        after.registry.live = 1 ∧ after.registry.count .first = 1 ∧
          after.registry.resolve? .first = some World.firstObject) = true :=
    World.exists_run [.create World.firstObject.content 16] (by decide +kernel)
  obtain ⟨permitted, panicked, observed⟩ := of_decide_eq_true checked
  exact ⟨world, _, run, permitted, Prod.ext panicked rfl, observed⟩

end Boundary
