import Boundary.Registry

/-!
What a registry keeps true of its two maps: they are inverse to each other, every handle in use lies
below the next one, and every entry is counted. Handing out and taking back preserve it.
-/

namespace Boundary

@[simp] theorem Handle.number_inj {left right : Handle} :
    left.number = right.number ↔ left = right :=
  ⟨ext_number, fun same => same ▸ rfl⟩

theorem Handle.number_of_next? {handle next : Handle} (successor : handle.next? = some next) :
    next.number = handle.number + 1 := by
  unfold next? at successor
  split at successor
  · cases successor
    rfl
  · cases successor

theorem Handle.lt_of_next? {handle next : Handle} (successor : handle.next? = some next) :
    handle.number < next.number := by
  rw [number_of_next? successor]
  exact Nat.lt_succ_self _

theorem Handle.next?_eq_none_iff {handle : Handle} :
    handle.next? = none ↔ handle.number = UInt64.size - 1 := by
  have bound := handle.inRange
  unfold next?
  split
  · simp only [reduceCtorEq, false_iff]
    omega
  · simp only [true_iff]
    omega

theorem Handle.number_of_exhausted {handle : Handle} (exhausted : handle.next? = none) :
    handle.number = UInt64.size - 1 :=
  next?_eq_none_iff.1 exhausted

theorem Entry.raise_count_pos (entry : Entry) : 0 < entry.raise.count :=
  Nat.lt_min.2 ⟨Nat.succ_pos _, by decide⟩

namespace Registry

/-- The maps of a registry agree, and its counter lies above every handle in use. -/
structure Consistent (registry : Registry) : Prop where
  handle_of_entry : ∀ (number : Nat) (entry : Entry), registry.entries[number]? = some entry →
    ∃ handle, registry.handles[entry.object.address]? = some handle ∧ handle.number = number
  entry_of_handle : ∀ (address : Address) (handle : Handle), registry.handles[address]? = some handle →
    ∃ entry, registry.entry? handle = some entry ∧ entry.object.address = address
  number_lt : ∀ (number : Nat) (entry : Entry), registry.entries[number]? = some entry →
    number < registry.next.number
  count_pos : ∀ (number : Nat) (entry : Entry), registry.entries[number]? = some entry →
    0 < entry.count

/-- Whether an object is registered, itself and not another one that had its address. -/
def holds (registry : Registry) (object : Object) : Bool :=
  match registry.registration? object with
  | some (_, entry) => entry.object = object
  | none => false

def withEntry (registry : Registry) (handle : Handle) (entry : Entry) : Registry :=
  { registry with entries := registry.entries.insert handle.number entry }

theorem entries_withEntry (registry : Registry) (handle : Handle) (entry : Entry) (number : Nat) :
    (registry.withEntry handle entry).entries[number]? =
      if handle.number = number then some entry else registry.entries[number]? := by
  simp [withEntry, Std.TreeMap.getElem?_insert]

theorem entries_register (registry : Registry) (object : Object) (next : Handle) (number : Nat) :
    (registry.register object next).entries[number]? =
      if registry.next.number = number then some ⟨object, 1⟩ else registry.entries[number]? := by
  simp [register, Std.TreeMap.getElem?_insert]

theorem handles_register (registry : Registry) (object : Object) (next : Handle)
    (address : Address) :
    (registry.register object next).handles[address]? =
      if object.address = address then some registry.next else registry.handles[address]? := by
  simp [register, Std.TreeMap.getElem?_insert]

theorem entries_remove (registry : Registry) (handle : Handle) (entry : Entry) (number : Nat) :
    (registry.remove handle entry).entries[number]? =
      if handle.number = number then none else registry.entries[number]? := by
  simp [remove, Std.TreeMap.getElem?_erase]

theorem handles_remove (registry : Registry) (handle : Handle) (entry : Entry)
    (address : Address) :
    (registry.remove handle entry).handles[address]? =
      if entry.object.address = address then none else registry.handles[address]? := by
  simp [remove, Std.TreeMap.getElem?_erase]

theorem entry?_withEntry (registry : Registry) (handle other : Handle) (entry : Entry) :
    entry? (registry.withEntry handle entry) other =
      if handle = other then some entry else registry.entry? other := by
  unfold entry?
  simp [entries_withEntry]

theorem entry?_register (registry : Registry) (object : Object) (next other : Handle) :
    entry? (registry.register object next) other =
      if registry.next = other then some ⟨object, 1⟩ else registry.entry? other := by
  unfold entry?
  simp [entries_register]

theorem entry?_remove (registry : Registry) (handle other : Handle) (entry : Entry) :
    entry? (registry.remove handle entry) other =
      if handle = other then none else registry.entry? other := by
  unfold entry?
  simp [entries_remove]

theorem resolve?_withEntry {registry : Registry} {handle : Handle} {entry other : Entry}
    (found : registry.entry? handle = some entry) (same : other.object = entry.object)
    (queried : Handle) :
    (registry.withEntry handle other).resolve? queried = registry.resolve? queried := by
  unfold resolve?
  rw [entry?_withEntry]
  split
  · rename_i here
    rw [← here, found, Option.map_some, Option.map_some, same]
  · rfl

theorem resolve?_register (registry : Registry) (object : Object) (next other : Handle) :
    (registry.register object next).resolve? other =
      if registry.next = other then some object else registry.resolve? other := by
  unfold resolve?
  rw [entry?_register]
  split <;> rfl

theorem resolve?_remove (registry : Registry) (handle other : Handle) (entry : Entry) :
    (registry.remove handle entry).resolve? other =
      if handle = other then none else registry.resolve? other := by
  unfold resolve?
  rw [entry?_remove]
  split <;> rfl

theorem resolve?_of_found {registry : Registry} {handle : Handle} {entry : Entry}
    (found : registry.entry? handle = some entry) :
    registry.resolve? handle = some entry.object := by
  simp [resolve?, found]

theorem entry?_of_registration? {registry : Registry} {object : Object} {handle : Handle}
    {entry : Entry} (known : registry.registration? object = some (handle, entry)) :
    registry.entry? handle = some entry := by
  unfold registration? at known
  split at known
  · cases known
  · obtain ⟨_, found, same⟩ := Option.map_eq_some_iff.1 known
    cases same
    exact found

theorem wrap?_eq_none_iff {registry : Registry} {object : Object} : registry.wrap? object = none ↔
    registry.registration? object = none ∧ registry.next.number = UInt64.size - 1 := by
  cases known : registry.registration? object with
  | some registration => simp [wrap?, known]
  | none => simp [wrap?, known, Handle.next?_eq_none_iff]

theorem resolve?_eq_some_iff (registry : Registry) (handle : Handle) (object : Object) :
    registry.resolve? handle = some object ↔
      ∃ entry, registry.entry? handle = some entry ∧ entry.object = object := by
  simp [resolve?]

theorem resolve?_eq_none_iff (registry : Registry) (handle : Handle) :
    registry.resolve? handle = none ↔ registry.entry? handle = none := by
  simp [resolve?]

theorem count_withEntry (registry : Registry) (handle other : Handle) (entry : Entry) :
    (registry.withEntry handle entry).count other =
      if handle = other then entry.count else registry.count other := by
  by_cases here : handle = other
  · simp [count, entry?_withEntry, here]
  · simp [count, entry?_withEntry, here]

theorem count_register (registry : Registry) (object : Object) (next other : Handle) :
    (registry.register object next).count other =
      if registry.next = other then 1 else registry.count other := by
  by_cases here : registry.next = other
  · simp [count, entry?_register, here]
  · simp [count, entry?_register, here]

theorem count_remove (registry : Registry) (handle other : Handle) (entry : Entry) :
    (registry.remove handle entry).count other =
      if handle = other then 0 else registry.count other := by
  by_cases here : handle = other
  · simp [count, entry?_remove, here]
  · simp [count, entry?_remove, here]

theorem count_of_found {registry : Registry} {handle : Handle} {entry : Entry}
    (found : registry.entry? handle = some entry) : registry.count handle = entry.count := by
  simp [count, found]

theorem count_of_missing {registry : Registry} {handle : Handle}
    (missing : registry.entry? handle = none) : registry.count handle = 0 := by
  simp [count, missing]

theorem count_of_resolve?_none {registry : Registry} {handle : Handle}
    (dead : registry.resolve? handle = none) : registry.count handle = 0 :=
  count_of_missing ((resolve?_eq_none_iff registry handle).1 dead)

theorem contains_number (registry : Registry) (handle : Handle) :
    registry.entries.contains handle.number = (registry.entry? handle).isSome :=
  Std.TreeMap.contains_eq_isSome_getElem?

theorem live_withEntry {registry : Registry} {handle : Handle} {entry : Entry}
    (found : registry.entry? handle = some entry) (other : Entry) :
    (registry.withEntry handle other).live = registry.live := by
  simp [live, withEntry, Std.TreeMap.size_insert, contains_number, found]

theorem live_register {registry : Registry} (missing : registry.entry? registry.next = none)
    (object : Object) (next : Handle) :
    (registry.register object next).live = registry.live + 1 := by
  simp [live, register, Std.TreeMap.size_insert, contains_number, missing]

theorem live_remove {registry : Registry} {handle : Handle} {entry : Entry}
    (found : registry.entry? handle = some entry) :
    (registry.remove handle entry).live = registry.live - 1 := by
  simp [live, remove, Std.TreeMap.size_erase, contains_number, found]

theorem holds_of_unknown {registry : Registry} {object : Object}
    (unknown : registry.registration? object = none) : registry.holds object = false := by
  simp [holds, unknown]

theorem Consistent.empty : Consistent {} := by
  constructor <;> simp

namespace Consistent

variable {registry : Registry} (consistent : registry.Consistent)

include consistent

theorem handle_unique {left right : Handle} {leftEntry rightEntry : Entry}
    (leftFound : registry.entry? left = some leftEntry)
    (rightFound : registry.entry? right = some rightEntry)
    (same : leftEntry.object.address = rightEntry.object.address) : left = right := by
  obtain ⟨leftHandle, leftMapped, leftNumber⟩ := consistent.handle_of_entry _ _ leftFound
  obtain ⟨rightHandle, rightMapped, rightNumber⟩ := consistent.handle_of_entry _ _ rightFound
  rw [same, rightMapped] at leftMapped
  cases leftMapped
  exact Handle.ext_number (leftNumber.symm.trans rightNumber)

theorem eq_of_resolve? {left right : Handle} {object : Object}
    (leftResolved : registry.resolve? left = some object)
    (rightResolved : registry.resolve? right = some object) : left = right := by
  obtain ⟨leftEntry, leftFound, leftSame⟩ := (resolve?_eq_some_iff _ _ _).1 leftResolved
  obtain ⟨rightEntry, rightFound, rightSame⟩ := (resolve?_eq_some_iff _ _ _).1 rightResolved
  exact consistent.handle_unique leftFound rightFound (by rw [leftSame, rightSame])

theorem handles_of_found {handle : Handle} {entry : Entry}
    (found : registry.entry? handle = some entry) :
    registry.handles[entry.object.address]? = some handle := by
  obtain ⟨other, mapped, number⟩ := consistent.handle_of_entry _ _ found
  rw [mapped, Handle.ext_number number]

theorem lt_next {handle : Handle} {entry : Entry} (found : registry.entry? handle = some entry) :
    handle.number < registry.next.number :=
  consistent.number_lt _ _ found

theorem entry?_next : registry.entry? registry.next = none := by
  cases found : registry.entry? registry.next with
  | none => rfl
  | some entry => exact absurd (consistent.lt_next found) (Nat.lt_irrefl _)

theorem resolve?_next : registry.resolve? registry.next = none :=
  (resolve?_eq_none_iff _ _).2 consistent.entry?_next

theorem registration?_eq_none_iff (object : Object) :
    registry.registration? object = none ↔ registry.handles[object.address]? = none := by
  unfold registration?
  cases mapped : registry.handles[object.address]? with
  | none => simp
  | some handle =>
      obtain ⟨entry, found, _⟩ := consistent.entry_of_handle _ _ mapped
      simp [found]

theorem registration?_eq_some_iff (object : Object) (handle : Handle) (entry : Entry) :
    registry.registration? object = some (handle, entry) ↔
      registry.entry? handle = some entry ∧ entry.object.address = object.address := by
  unfold registration?
  constructor
  · intro registered
    cases mapped : registry.handles[object.address]? with
    | none => simp [mapped] at registered
    | some other =>
        simp only [mapped, Option.map_eq_some_iff, Prod.mk.injEq] at registered
        obtain ⟨_, found, rfl, rfl⟩ := registered
        obtain ⟨entry, again, address⟩ := consistent.entry_of_handle _ _ mapped
        rw [found] at again
        cases again
        exact ⟨found, address⟩
  · rintro ⟨found, address⟩
    have mapped := consistent.handles_of_found found
    rw [address] at mapped
    simp [mapped, found]

theorem resolve?_isSome_iff (handle : Handle) :
    (registry.resolve? handle).isSome = true ↔ 0 < registry.count handle := by
  cases found : registry.entry? handle with
  | none => simp [resolve?, found, count_of_missing found]
  | some entry =>
      have positive := consistent.count_pos _ _ found
      simp [resolve?, found, count_of_found found, positive]

theorem holds_iff (object : Object) :
    registry.holds object = true ↔ ∃ handle, registry.resolve? handle = some object := by
  unfold holds
  constructor
  · intro held
    split at held
    · rename_i handle entry registered
      have found := ((consistent.registration?_eq_some_iff _ _ _).1 registered).1
      exact ⟨handle, by simpa [resolve?, found] using held⟩
    · cases held
  · rintro ⟨handle, resolved⟩
    obtain ⟨entry, found, same⟩ := (resolve?_eq_some_iff _ _ _).1 resolved
    have registered := (consistent.registration?_eq_some_iff object handle entry).2
      ⟨found, by rw [same]⟩
    simp [registered, same]

theorem withEntry {handle : Handle} {entry other : Entry}
    (found : registry.entry? handle = some entry) (same : other.object = entry.object)
    (counted : 0 < other.count) : (registry.withEntry handle other).Consistent := by
  constructor
  · intro number result resultFound
    rw [entries_withEntry] at resultFound
    split at resultFound
    · cases resultFound
      rename_i numberEq
      subst numberEq
      rw [same]
      exact consistent.handle_of_entry _ _ found
    · exact consistent.handle_of_entry _ _ resultFound
  · intro address mappedHandle mapped
    obtain ⟨result, resultFound, resultAddress⟩ := consistent.entry_of_handle _ _ mapped
    rw [entry?_withEntry]
    by_cases here : handle = mappedHandle
    · subst here
      rw [found] at resultFound
      cases resultFound
      exact ⟨other, by simp, by rw [same, resultAddress]⟩
    · exact ⟨result, by simp [here, resultFound], resultAddress⟩
  · intro number result resultFound
    rw [entries_withEntry] at resultFound
    split at resultFound
    · rename_i numberEq
      exact numberEq ▸ consistent.lt_next found
    · exact consistent.number_lt _ _ resultFound
  · intro number result resultFound
    rw [entries_withEntry] at resultFound
    split at resultFound
    · cases resultFound
      exact counted
    · exact consistent.count_pos _ _ resultFound

theorem register {object : Object} {next : Handle}
    (fresh : registry.handles[object.address]? = none)
    (successor : registry.next.next? = some next) : (registry.register object next).Consistent := by
  have above := Handle.lt_of_next? successor
  constructor
  · intro number entry found
    rw [entries_register] at found
    rw [handles_register]
    split at found
    · cases found
      rename_i numberEq
      exact ⟨registry.next, by simp, numberEq⟩
    · obtain ⟨handle, mapped, handleNumber⟩ := consistent.handle_of_entry _ _ found
      have different : object.address ≠ entry.object.address := by
        intro same
        rw [← same, fresh] at mapped
        cases mapped
      exact ⟨handle, by simp [different, mapped], handleNumber⟩
  · intro address handle mapped
    rw [handles_register] at mapped
    rw [entry?_register]
    split at mapped
    · cases mapped
      rename_i addressEq
      exact ⟨⟨object, 1⟩, by simp, addressEq⟩
    · obtain ⟨entry, found, entryAddress⟩ := consistent.entry_of_handle _ _ mapped
      have different : registry.next ≠ handle := by
        intro same
        rw [← same, consistent.entry?_next] at found
        cases found
      exact ⟨entry, by simp [different, found], entryAddress⟩
  · intro number entry found
    change number < next.number
    rw [entries_register] at found
    split at found
    · rename_i numberEq
      exact numberEq ▸ above
    · exact Nat.lt_trans (consistent.number_lt _ _ found) above
  · intro number entry found
    rw [entries_register] at found
    split at found
    · cases found
      exact Nat.one_pos
    · exact consistent.count_pos _ _ found

theorem remove {handle : Handle} {entry : Entry} (found : registry.entry? handle = some entry) :
    (registry.remove handle entry).Consistent := by
  constructor
  · intro number other otherFound
    rw [entries_remove] at otherFound
    rw [handles_remove]
    split at otherFound
    · cases otherFound
    · rename_i numberNe
      obtain ⟨otherHandle, mapped, otherNumber⟩ := consistent.handle_of_entry _ _ otherFound
      have different : entry.object.address ≠ other.object.address := by
        intro same
        have here := consistent.handles_of_found found
        rw [same, mapped] at here
        cases here
        exact numberNe otherNumber
      exact ⟨otherHandle, by simp [different, mapped], otherNumber⟩
  · intro address otherHandle mapped
    rw [handles_remove] at mapped
    split at mapped
    · cases mapped
    · rename_i addressNe
      obtain ⟨other, otherFound, otherAddress⟩ := consistent.entry_of_handle _ _ mapped
      have different : handle ≠ otherHandle := by
        intro same
        rw [← same, found] at otherFound
        cases otherFound
        exact addressNe otherAddress
      exact ⟨other, by rw [entry?_remove]; simp [different, otherFound], otherAddress⟩
  · intro number other otherFound
    rw [entries_remove] at otherFound
    split at otherFound
    · cases otherFound
    · exact consistent.number_lt _ _ otherFound
  · intro number other otherFound
    rw [entries_remove] at otherFound
    split at otherFound
    · cases otherFound
    · exact consistent.count_pos _ _ otherFound

theorem holds_withEntry {handle : Handle} {entry other : Entry}
    (found : registry.entry? handle = some entry) (same : other.object = entry.object)
    (counted : 0 < other.count) (object : Object) :
    (registry.withEntry handle other).holds object = registry.holds object := by
  rw [Bool.eq_iff_iff, (consistent.withEntry found same counted).holds_iff, consistent.holds_iff]
  simp only [resolve?_withEntry found same]

theorem holds_register {object : Object} {next : Handle}
    (fresh : registry.handles[object.address]? = none)
    (successor : registry.next.next? = some next) (other : Object) :
    (registry.register object next).holds other = (decide (other = object) || registry.holds other) := by
  rw [Bool.eq_iff_iff, (consistent.register fresh successor).holds_iff, Bool.or_eq_true,
    decide_eq_true_eq, consistent.holds_iff]
  simp only [resolve?_register]
  constructor
  · rintro ⟨handle, resolved⟩
    split at resolved
    · cases resolved
      exact Or.inl rfl
    · exact Or.inr ⟨handle, resolved⟩
  · rintro (rfl | ⟨handle, resolved⟩)
    · exact ⟨registry.next, by simp⟩
    · obtain ⟨entry, found, _⟩ := (resolve?_eq_some_iff _ _ _).1 resolved
      have different : registry.next ≠ handle := by
        rintro rfl
        rw [consistent.entry?_next] at found
        cases found
      exact ⟨handle, by simp [different, resolved]⟩

theorem holds_remove {handle : Handle} {entry : Entry}
    (found : registry.entry? handle = some entry) (object : Object) :
    (registry.remove handle entry).holds object =
      (registry.holds object && decide (object ≠ entry.object)) := by
  rw [Bool.eq_iff_iff, (consistent.remove found).holds_iff, Bool.and_eq_true, decide_eq_true_eq,
    consistent.holds_iff]
  simp only [resolve?_remove]
  constructor
  · rintro ⟨other, resolved⟩
    split at resolved
    · cases resolved
    · rename_i different
      refine ⟨⟨other, resolved⟩, ?_⟩
      rintro rfl
      obtain ⟨otherEntry, otherFound, same⟩ := (resolve?_eq_some_iff _ _ _).1 resolved
      exact different (consistent.handle_unique found otherFound (by rw [same]))
  · rintro ⟨⟨other, resolved⟩, different⟩
    have elsewhere : handle ≠ other := by
      rintro rfl
      rw [resolve?_of_found found] at resolved
      exact different (Option.some.inj resolved).symm
    exact ⟨other, by simp [elsewhere, resolved]⟩

end Consistent

end Registry

end Boundary
