import Boundary.Proofs.References
import Boundary.Proofs.Registry.Consistency
import Mathlib.Data.Multiset.AddSub

/-!
Who refers to which object: the registry, once for each registered object, and the program around
it. A move is the smallest change of custody. Main statement: moves preserve that the references of
every object are those of the two parties, so a registered address is never given to another object.
-/

namespace Boundary

structure Custody where
  registry : Registry
  objects : Objects
  held : Multiset Object

/-- What passes between the registry and its users. A handle is issued where it did not resolve before, and
shared where it is in use; one of several references is returned, and the last one closes a handle. -/
inductive Exchange where
  | issued (object : Object) (handle : Handle)
  | shared (object : Object) (handle : Handle)
  | returned (handle : Handle)
  | closed (handle : Handle)
  deriving DecidableEq

namespace Custody

/-- One change of custody and what it exchanged. -/
inductive Move (custody : Custody) : List Exchange → Custody → Prop
  | create (content : Content) (address : Address)
      (free : custody.objects.cells[address]? = none) :
      Move custody [] { custody with
        objects := (custody.objects.create content address).2
        held := (custody.objects.create content address).1 ::ₘ custody.held }
  | copy {object : Object} (held : object ∈ custody.held) :
      Move custody [] { custody with
        objects := custody.objects.retain object
        held := object ::ₘ custody.held }
  | drop {object : Object} (held : object ∈ custody.held) :
      Move custody [] { custody with
        objects := custody.objects.drop object
        held := custody.held.erase object }
  | issue {object : Object} {next : Handle} (held : object ∈ custody.held)
      (unknown : custody.registry.registration? object = none)
      (successor : custody.registry.next.next? = some next) :
      Move custody [.issued object custody.registry.next] { custody with
        registry := custody.registry.register object next
        objects := custody.objects.retain object }
  | share {object : Object} {handle : Handle} {entry : Entry} (held : object ∈ custody.held)
      (known : custody.registry.registration? object = some (handle, entry)) :
      Move custody [.shared object handle] { custody with
        registry := custody.registry.withEntry handle entry.raise }
  | lower {handle : Handle} {entry : Entry}
      (found : custody.registry.entry? handle = some entry) (more : 1 < entry.count) :
      Move custody [.returned handle] { custody with
        registry := custody.registry.withEntry handle { entry with count := entry.count - 1 } }
  | close {handle : Handle} {entry : Entry}
      (found : custody.registry.entry? handle = some entry) (last : entry.count = 1) :
      Move custody [.closed handle] { custody with
        registry := custody.registry.remove handle entry
        objects := custody.objects.drop entry.object }
  | take {handle : Handle} {object : Object}
      (found : custody.registry.resolve? handle = some object) :
      Move custody [] { custody with
        objects := custody.objects.retain object
        held := object ::ₘ custody.held }

inductive Moves (start : Custody) : List Exchange → Custody → Prop
  | refl : Moves start [] start
  | tail {earlier exchanges : List Exchange} {custody after : Custody} :
      Moves start earlier custody → Move custody exchanges after →
      Moves start (earlier ++ exchanges) after

theorem Move.moves {custody after : Custody} {exchanges : List Exchange}
    (move : custody.Move exchanges after) : custody.Moves exchanges after :=
  Moves.tail Moves.refl move

theorem Moves.trans {first second third : Custody} {earlier later : List Exchange}
    (before : first.Moves earlier second) (after : second.Moves later third) :
    first.Moves (earlier ++ later) third := by
  induction after with
  | refl => simpa using before
  | tail _ move ih => simpa using ih.tail move

/-- The registry is consistent, the live objects are sound, and the references to every object are
those held outside and the registry's own. -/
structure Sound (custody : Custody) : Prop where
  registry : custody.registry.Consistent
  objects : custody.objects.Sound
  balanced : ∀ object : Object, custody.objects.referencesTo object =
    custody.held.count object + (custody.registry.holds object).toNat

theorem Sound.empty : Sound ⟨{}, {}, 0⟩ where
  registry := .empty
  objects := .empty
  balanced object := by
    simp [Objects.referencesTo, Registry.holds, Registry.registration?]

namespace Sound

variable {custody : Custody} (sound : custody.Sound)

include sound

theorem live_of_held {object : Object} (held : object ∈ custody.held) :
    0 < custody.objects.referencesTo object := by
  rw [sound.balanced]
  exact Nat.add_pos_left (Multiset.count_pos.2 held) _

theorem live_of_resolve? {handle : Handle} {object : Object}
    (resolved : custody.registry.resolve? handle = some object) :
    0 < custody.objects.referencesTo object := by
  have known := (sound.registry.holds_iff object).2 ⟨handle, resolved⟩
  rw [sound.balanced, known]
  exact Nat.succ_pos _

/-- A live object is found under its own registration, never under that of another object. -/
theorem object_of_registration? {object : Object} {handle : Handle} {entry : Entry}
    (live : 0 < custody.objects.referencesTo object)
    (known : custody.registry.registration? object = some (handle, entry)) :
    entry.object = object := by
  obtain ⟨found, address⟩ := (sound.registry.registration?_eq_some_iff _ _ _).1 known
  exact Objects.eq_of_same_address (sound.live_of_resolve? (Registry.resolve?_of_found found))
    live address

theorem resolve?_of_share {object : Object} {handle : Handle} {entry : Entry}
    (held : object ∈ custody.held)
    (known : custody.registry.registration? object = some (handle, entry)) :
    (custody.registry.withEntry handle entry.raise).resolve? handle = some object := by
  have found := Registry.entry?_of_registration? known
  have same := sound.object_of_registration? (sound.live_of_held held) known
  have kept : entry.raise.object = entry.object := rfl
  rw [Registry.resolve?_withEntry found kept, Registry.resolve?_of_found found, same]

theorem fresh_of_unknown {object : Object}
    (unknown : custody.registry.registration? object = none) :
    custody.registry.handles[object.address]? = none :=
  (sound.registry.registration?_eq_none_iff object).1 unknown

theorem create (content : Content) {address : Address}
    (free : custody.objects.cells[address]? = none) :
    Sound { custody with
      objects := (custody.objects.create content address).2
      held := (custody.objects.create content address).1 ::ₘ custody.held } where
  registry := sound.registry
  objects := sound.objects.create content address
  balanced other := by
    have before := sound.balanced other
    rw [Objects.referencesTo_create content free, Multiset.count_cons]
    by_cases new : other = (custody.objects.create content address).1
    · have none : custody.objects.referencesTo other = 0 :=
        Objects.referencesTo_of_free (by rw [new]; exact free)
      simp only [new, if_true] at before none ⊢
      omega
    · simp only [new, if_false]
      omega

theorem gain {object : Object} (live : 0 < custody.objects.referencesTo object) :
    Sound { custody with
      objects := custody.objects.retain object
      held := object ::ₘ custody.held } where
  registry := sound.registry
  objects := sound.objects.retain live
  balanced other := by
    rw [Objects.referencesTo_retain live, Multiset.count_cons, sound.balanced]
    exact Nat.add_right_comm _ _ _

theorem drop {object : Object} (held : object ∈ custody.held) :
    Sound { custody with
      objects := custody.objects.drop object
      held := custody.held.erase object } where
  registry := sound.registry
  objects := sound.objects.drop (sound.live_of_held held)
  balanced other := by
    rw [Objects.referencesTo_drop (sound.live_of_held held), sound.balanced]
    by_cases same : other = object
    · subst same
      rw [Multiset.count_erase_self, if_pos rfl]
      exact Nat.sub_add_comm (Multiset.count_pos.2 held)
    · rw [Multiset.count_erase_of_ne same, if_neg same, Nat.sub_zero]

theorem issue {object : Object} {next : Handle} (held : object ∈ custody.held)
    (unknown : custody.registry.registration? object = none)
    (successor : custody.registry.next.next? = some next) :
    Sound { custody with
      registry := custody.registry.register object next
      objects := custody.objects.retain object } where
  registry := sound.registry.register (sound.fresh_of_unknown unknown) successor
  objects := sound.objects.retain (sound.live_of_held held)
  balanced other := by
    have before := sound.balanced other
    rw [Objects.referencesTo_retain (sound.live_of_held held),
      sound.registry.holds_register (sound.fresh_of_unknown unknown) successor]
    by_cases same : other = object
    · subst same
      simp [before, Registry.holds_of_unknown unknown]
    · simp [before, same]

theorem recount {handle : Handle} {entry other : Entry}
    (found : custody.registry.entry? handle = some entry) (same : other.object = entry.object)
    (counted : 0 < other.count) :
    Sound { custody with registry := custody.registry.withEntry handle other } where
  registry := sound.registry.withEntry found same counted
  objects := sound.objects
  balanced object := by
    rw [sound.registry.holds_withEntry found same counted]
    exact sound.balanced object

theorem close {handle : Handle} {entry : Entry}
    (found : custody.registry.entry? handle = some entry) :
    Sound { custody with
      registry := custody.registry.remove handle entry
      objects := custody.objects.drop entry.object } where
  registry := sound.registry.remove found
  objects := sound.objects.drop (sound.live_of_resolve? (Registry.resolve?_of_found found))
  balanced other := by
    have before := sound.balanced other
    have resolved := Registry.resolve?_of_found found
    rw [Objects.referencesTo_drop (sound.live_of_resolve? resolved),
      sound.registry.holds_remove found]
    by_cases same : other = entry.object
    · subst same
      have known := (sound.registry.holds_iff _).2 ⟨handle, resolved⟩
      simp [before, known]
    · simp [before, same]

theorem move {after : Custody} {exchanges : List Exchange} (move : custody.Move exchanges after) :
    after.Sound := by
  cases move with
  | create content address free => exact sound.create content free
  | copy held => exact sound.gain (sound.live_of_held held)
  | drop held => exact sound.drop held
  | issue held unknown successor => exact sound.issue held unknown successor
  | share held known =>
      have found := Registry.entry?_of_registration? known
      exact sound.recount found rfl (Entry.raise_count_pos _)
  | lower found more => exact sound.recount found rfl (Nat.sub_pos_of_lt more)
  | close found last => exact sound.close found
  | take found => exact sound.gain (sound.live_of_resolve? found)

theorem moves {after : Custody} {exchanges : List Exchange}
    (moves : custody.Moves exchanges after) : after.Sound := by
  induction moves with
  | refl => exact sound
  | tail _ step ih => exact ih.move step

end Sound

end Custody

end Boundary
