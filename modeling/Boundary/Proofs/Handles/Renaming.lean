import Boundary.Proofs.Registry.Response
import Mathlib.Data.Set.Function
import Mathlib.Logic.Function.Basic

/-!
A registry that holds, under other numbers, some of what a larger one holds. Main statement: asked
for the same things, the two give the same answers, and the smaller one keeps up.
-/

namespace Boundary

theorem Handle.exists_next?_of_le {handle other next : Handle}
    (below : handle.number ≤ other.number) (successor : other.next? = some next) :
    ∃ next, handle.next? = some next := by
  rw [← Option.ne_none_iff_exists']
  intro exhausted
  have last := Handle.number_of_exhausted exhausted
  have following := Handle.number_of_next? successor
  have bound := next.inRange
  rw [following] at bound
  omega

namespace Registry

def Answer.extend (owned : Set Handle) : Answer → Set Handle
  | given handle => insert handle owned
  | released _ | resolved _ | counted _ => owned

theorem Answer.subset_extend (owned : Set Handle) (answer : Answer) :
    owned ⊆ answer.extend owned := by
  cases answer with
  | given handle => exact Set.subset_insert handle owned
  | released _ | resolved _ | counted _ => exact Set.Subset.refl owned

theorem Answer.mem_extend {owned : Set Handle} {answer : Answer} {handle : Handle}
    (given : answer.handle? = some handle) : handle ∈ answer.extend owned := by
  cases answer with
  | given other =>
      cases given
      exact Set.mem_insert handle owned
  | released _ | resolved _ | counted _ => cases given

/-- The entries of some handles, and no others, stand in a second registry under renamed handles. -/
structure Mirrors (owned : Set Handle) (rename : Handle → Handle) (shared alone : Registry) :
    Prop where
  consistent : alone.Consistent
  injective : Set.InjOn rename owned
  lt_next : ∀ handle ∈ owned, handle.number < shared.next.number
  rename_lt_next : ∀ handle ∈ owned, (rename handle).number < alone.next.number
  next_le : alone.next.number ≤ shared.next.number
  entry? : ∀ handle ∈ owned, alone.entry? (rename handle) = shared.entry? handle
  image : ∀ (handle : Handle) (entry : Entry), alone.entry? handle = some entry →
    ∃ original ∈ owned, rename original = handle

theorem Mirrors.empty (rename : Handle → Handle) : Mirrors ∅ rename {} {} where
  consistent := .empty
  injective := Set.injOn_empty rename
  lt_next _ member := absurd member (Set.notMem_empty _)
  rename_lt_next _ member := absurd member (Set.notMem_empty _)
  next_le := Nat.le_refl _
  entry? _ member := absurd member (Set.notMem_empty _)
  image handle entry found := by simp [Registry.entry?] at found

namespace Mirrors

variable {owned : Set Handle} {rename : Handle → Handle} {shared alone after : Registry}
  {object : Object} {handle : Handle} {entry : Entry} (mirrors : Mirrors owned rename shared alone)

include mirrors

theorem frame (entries : ∀ handle ∈ owned, after.entry? handle = shared.entry? handle)
    (next : shared.next.number ≤ after.next.number) : Mirrors owned rename after alone where
  consistent := mirrors.consistent
  injective := mirrors.injective
  lt_next handle member := Nat.lt_of_lt_of_le (mirrors.lt_next handle member) next
  rename_lt_next := mirrors.rename_lt_next
  next_le := Nat.le_trans mirrors.next_le next
  entry? handle member := by rw [mirrors.entry? handle member, entries handle member]
  image := mirrors.image

theorem registration?_of_known (consistent : shared.Consistent) (mine : handle ∈ owned)
    (known : shared.registration? object = some (handle, entry)) :
    alone.registration? object = some (rename handle, entry) := by
  obtain ⟨found, address⟩ := (consistent.registration?_eq_some_iff _ _ _).1 known
  apply (mirrors.consistent.registration?_eq_some_iff _ _ _).2
  exact ⟨(mirrors.entry? handle mine).trans found, address⟩

theorem registration?_of_unknown (consistent : shared.Consistent)
    (unknown : shared.registration? object = none) : alone.registration? object = none := by
  cases known : alone.registration? object with
  | none => rfl
  | some registration =>
      obtain ⟨found, address⟩ :=
        (mirrors.consistent.registration?_eq_some_iff _ _ _).1 known
      -- Its entry is the image of one in the larger registry, which would know the object too.
      obtain ⟨original, mine, same⟩ := mirrors.image _ _ found
      rw [← same, mirrors.entry? original mine] at found
      have registered := (consistent.registration?_eq_some_iff object original _).2
        ⟨found, address⟩
      rw [unknown] at registered
      cases registered

theorem replace {aloneAfter : Registry} {result : Option Entry} (mine : handle ∈ owned)
    (consistent : aloneAfter.Consistent) (next : after.next = shared.next)
    (nextAlone : aloneAfter.next = alone.next)
    (entries : ∀ queried,
      after.entry? queried = if handle = queried then result else shared.entry? queried)
    (entriesAlone : ∀ queried, aloneAfter.entry? queried =
      if rename handle = queried then result else alone.entry? queried) :
    Mirrors owned rename after aloneAfter := by
  refine ⟨consistent, mirrors.injective, ?_, ?_, ?_, ?_, ?_⟩
  · rw [next]
    exact mirrors.lt_next
  · rw [nextAlone]
    exact mirrors.rename_lt_next
  · rw [next, nextAlone]
    exact mirrors.next_le
  · intro queried member
    rw [entries, entriesAlone]
    by_cases here : handle = queried
    · rw [if_pos here, if_pos (congrArg rename here)]
    · have different : rename handle ≠ rename queried :=
        fun equal => here (mirrors.injective mine member equal)
      rw [if_neg here, if_neg different, mirrors.entry? queried member]
  · intro queried found there
    rw [entriesAlone] at there
    split at there
    · rename_i here
      exact ⟨handle, mine, here⟩
    · exact mirrors.image queried found there

theorem recount {other : Entry} (mine : handle ∈ owned)
    (found : shared.entry? handle = some entry) (same : other.object = entry.object)
    (counted : 0 < other.count) :
    Mirrors owned rename (shared.withEntry handle other)
      (alone.withEntry (rename handle) other) := by
  have foundAlone := (mirrors.entry? handle mine).trans found
  exact mirrors.replace mine (mirrors.consistent.withEntry foundAlone same counted) rfl rfl
    (fun queried => entry?_withEntry _ _ queried _) fun queried => entry?_withEntry _ _ queried _

theorem remove (mine : handle ∈ owned) (found : shared.entry? handle = some entry) :
    Mirrors owned rename (shared.remove handle entry)
      (alone.remove (rename handle) entry) := by
  have foundAlone := (mirrors.entry? handle mine).trans found
  exact mirrors.replace mine (mirrors.consistent.remove foundAlone) rfl rfl
    (fun queried => entry?_remove _ _ queried _) fun queried => entry?_remove _ _ queried _

theorem next_notMem : shared.next ∉ owned :=
  fun mine => Nat.lt_irrefl _ (mirrors.lt_next _ mine)

theorem register {next nextAlone : Handle} (fresh : alone.registration? object = none)
    (successor : shared.next.next? = some next)
    (successorAlone : alone.next.next? = some nextAlone) :
    Mirrors (insert shared.next owned) (Function.update rename shared.next alone.next)
      (shared.register object next) (alone.register object nextAlone) := by
  have new := mirrors.next_notMem
  have agree : Set.EqOn (Function.update rename shared.next alone.next) rename owned := by
    intro handle mine
    apply Function.update_of_ne
    rintro rfl
    exact new mine
  have apart : ∀ handle ∈ owned, alone.next ≠ rename handle := by
    intro handle mine same
    have below := mirrors.rename_lt_next handle mine
    rw [← same] at below
    exact Nat.lt_irrefl _ below
  have above := Handle.number_of_next? successor
  have aboveAlone := Handle.number_of_next? successorAlone
  refine ⟨?_, ?_, ?_, ?_, ?_, ?_, ?_⟩
  · exact mirrors.consistent.register
      ((mirrors.consistent.registration?_eq_none_iff object).1 fresh) successorAlone
  · rw [Set.injOn_insert new]
    refine ⟨mirrors.injective.congr agree.symm, ?_⟩
    rintro ⟨handle, mine, same⟩
    rw [agree mine, Function.update_self] at same
    exact apart handle mine same.symm
  · intro handle member
    change handle.number < next.number
    rw [above]
    rcases Set.mem_insert_iff.1 member with rfl | mine
    · exact Nat.lt_succ_self _
    · exact Nat.lt_succ_of_lt (mirrors.lt_next handle mine)
  · intro handle member
    change _ < nextAlone.number
    rw [aboveAlone]
    rcases Set.mem_insert_iff.1 member with rfl | mine
    · rw [Function.update_self]
      exact Nat.lt_succ_self _
    · rw [agree mine]
      exact Nat.lt_succ_of_lt (mirrors.rename_lt_next handle mine)
  · change nextAlone.number ≤ next.number
    rw [above, aboveAlone]
    exact Nat.succ_le_succ mirrors.next_le
  · intro handle member
    rw [entry?_register, entry?_register]
    rcases Set.mem_insert_iff.1 member with rfl | mine
    · rw [Function.update_self, if_pos rfl, if_pos rfl]
    · have old : shared.next ≠ handle := by
        rintro rfl
        exact new mine
      rw [agree mine, if_neg (apart handle mine), if_neg old, mirrors.entry? handle mine]
  · intro handle found there
    rw [entry?_register] at there
    split at there
    · rename_i here
      exact ⟨shared.next, Set.mem_insert _ _, by rw [Function.update_self, here]⟩
    · obtain ⟨original, mine, same⟩ := mirrors.image handle found there
      exact ⟨original, Set.mem_insert_of_mem _ mine, by rw [agree mine, same]⟩

/-- Both registries answer a request about handles in hand alike. -/
theorem respond {request : Request} {answer : Answer} (consistent : shared.Consistent)
    (response : shared.Response request answer after)
    (named : ∀ handle, request.handle? = some handle → handle ∈ owned)
    (known : ∀ object handle entry, request = .wrap object →
      shared.registration? object = some (handle, entry) → handle ∈ owned) :
    ∃ change registry, Set.EqOn change rename owned ∧
      alone.Response (request.rename change) (answer.rename change) registry ∧
      Mirrors (answer.extend owned) change after registry := by
  cases response with
  | @issue object next unknown successor =>
      have fresh := mirrors.registration?_of_unknown consistent unknown
      obtain ⟨nextAlone, successorAlone⟩ :=
        Handle.exists_next?_of_le mirrors.next_le successor
      refine ⟨Function.update rename shared.next alone.next, _, ?_, ?_,
        mirrors.register fresh successor successorAlone⟩
      · intro handle mine
        apply Function.update_of_ne
        rintro rfl
        exact mirrors.next_notMem mine
      · rw [Answer.rename, Function.update_self]
        exact .issue fresh successorAlone
  | @share object handle entry registered =>
      have mine := known object handle entry rfl registered
      have found := entry?_of_registration? registered
      refine ⟨rename, _, Set.eqOn_refl rename owned,
        .share (mirrors.registration?_of_known consistent mine registered), ?_⟩
      rw [Answer.extend, Set.insert_eq_of_mem mine]
      exact mirrors.recount mine found rfl (Entry.raise_count_pos entry)
  | @refuse handle dead =>
      have mine := named handle rfl
      exact ⟨rename, alone, Set.eqOn_refl rename owned,
        .refuse ((mirrors.entry? handle mine).trans dead), mirrors⟩
  | @lower handle entry found several =>
      have mine := named handle rfl
      exact ⟨rename, _, Set.eqOn_refl rename owned,
        .lower ((mirrors.entry? handle mine).trans found) several,
        mirrors.recount mine found rfl (Nat.sub_pos_of_lt several)⟩
  | @close handle entry found last =>
      have mine := named handle rfl
      exact ⟨rename, _, Set.eqOn_refl rename owned,
        .close ((mirrors.entry? handle mine).trans found) last, mirrors.remove mine found⟩
  | resolve handle =>
      have same : alone.resolve? (rename handle) = shared.resolve? handle :=
        congrArg (Option.map Entry.object) (mirrors.entry? handle (named handle rfl))
      refine ⟨rename, alone, Set.eqOn_refl rename owned, ?_, mirrors⟩
      rw [← same]
      exact .resolve (rename handle)
  | count handle =>
      have same : alone.count (rename handle) = shared.count handle := by
        unfold Registry.count
        rw [mirrors.entry? handle (named handle rfl)]
      refine ⟨rename, alone, Set.eqOn_refl rename owned, ?_, mirrors⟩
      rw [← same]
      exact .count (rename handle)

end Mirrors

end Registry

end Boundary
