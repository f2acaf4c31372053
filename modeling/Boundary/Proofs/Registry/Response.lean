import Boundary.Proofs.Ownership

/-!
The registry as its users see it, who hand in requests and get answers. Main statements: the answer
and the registry afterwards depend on the registry alone, and a request changes nothing but the entry
of the handle that it names or that it is answered with.
-/

namespace Boundary.Registry

inductive Request where
  | wrap (object : Object)
  | release (handle : Handle)
  | resolve (handle : Handle)
  | count (handle : Handle)
  deriving DecidableEq

inductive Answer where
  | given (handle : Handle)
  | released (success : Bool)
  | resolved (object : Option Object)
  | counted (count : Nat)
  deriving DecidableEq

namespace Request

def perform : Request → Action Answer
  | wrap object => Answer.given <$> wrapObject object
  | release handle => Answer.released <$> releaseHandle handle
  | resolve handle => Answer.resolved <$> resolveHandle handle
  | count handle => (fun state => Answer.counted (state.registry.count handle)) <$> .get

def handle? : Request → Option Handle
  | wrap _ => none
  | release handle | resolve handle | count handle => some handle

def rename (change : Handle → Handle) : Request → Request
  | wrap object => wrap object
  | release handle => release (change handle)
  | resolve handle => resolve (change handle)
  | count handle => count (change handle)

theorem rename_congr {change other : Handle → Handle} {request : Request}
    (agree : ∀ handle, request.handle? = some handle → change handle = other handle) :
    request.rename change = request.rename other := by
  cases request with
  | wrap object => rfl
  | release handle | resolve handle | count handle => rw [rename, agree handle rfl]; rfl

end Request

namespace Answer

def handle? : Answer → Option Handle
  | given handle => some handle
  | released _ | resolved _ | counted _ => none

def references : Answer → Multiset Object
  | resolved object => ↑object.toList
  | given _ | released _ | counted _ => 0

def rename (change : Handle → Handle) : Answer → Answer
  | given handle => given (change handle)
  | released success => released success
  | resolved object => resolved object
  | counted count => counted count

theorem rename_congr {change other : Handle → Handle} {answer : Answer}
    (agree : ∀ handle, answer.handle? = some handle → change handle = other handle) :
    answer.rename change = answer.rename other := by
  cases answer with
  | given handle => rw [rename, agree handle rfl]; rfl
  | released _ | resolved _ | counted _ => rfl

end Answer

/-- What a request is answered with, and the registry afterwards. -/
inductive Response (registry : Registry) : Request → Answer → Registry → Prop
  | issue {object : Object} {next : Handle} (unknown : registry.registration? object = none)
      (successor : registry.next.next? = some next) :
      Response registry (.wrap object) (.given registry.next) (registry.register object next)
  | share {object : Object} {handle : Handle} {entry : Entry}
      (known : registry.registration? object = some (handle, entry)) :
      Response registry (.wrap object) (.given handle) (registry.withEntry handle entry.raise)
  | refuse {handle : Handle} (dead : registry.entry? handle = none) :
      Response registry (.release handle) (.released false) registry
  | lower {handle : Handle} {entry : Entry} (found : registry.entry? handle = some entry)
      (several : 1 < entry.count) :
      Response registry (.release handle) (.released true)
        (registry.withEntry handle { entry with count := entry.count - 1 })
  | close {handle : Handle} {entry : Entry} (found : registry.entry? handle = some entry)
      (last : entry.count = 1) :
      Response registry (.release handle) (.released true) (registry.remove handle entry)
  | resolve (handle : Handle) :
      Response registry (.resolve handle) (.resolved (registry.resolve? handle)) registry
  | count (handle : Handle) :
      Response registry (.count handle) (.counted (registry.count handle)) registry

section Perform

variable {state : State} {request : Request} {answer : Answer}
  (consistent : state.registry.Consistent)

include consistent

theorem run_perform_of_response {registry : Registry}
    (response : state.registry.Response request answer registry) :
    ∃ after, request.perform.run state = (.ok answer, after) ∧ after.registry = registry := by
  cases response with
  | issue unknown successor =>
      simp [Request.perform, run_wrapObject_of_unknown unknown consistent.resolve?_next successor]
  | share known => simp [Request.perform, run_wrapObject_of_known known]
  | refuse dead => simp [Request.perform, run_releaseHandle_of_dead dead]
  | lower found several => simp [Request.perform, run_releaseHandle_of_several found several]
  | close found last => simp [Request.perform, run_releaseHandle_of_last found last]
  | resolve handle =>
      simp only [Request.perform, Action.run_map, run_resolveHandle]
      refine ⟨_, rfl, ?_⟩
      split <;> rfl
  | count handle => simp [Request.perform]

theorem response_or_exhausted (request : Request) :
    (∃ answer registry, state.registry.Response request answer registry) ∨
      ∃ object, request = .wrap object ∧ state.registry.registration? object = none ∧
        state.registry.next.next? = none := by
  cases request with
  | wrap object =>
      cases known : state.registry.registration? object with
      | some registration => exact .inl ⟨_, _, .share known⟩
      | none =>
          cases successor : state.registry.next.next? with
          | some next => exact .inl ⟨_, _, .issue known successor⟩
          | none => exact .inr ⟨object, rfl, known, rfl⟩
  | release handle =>
      cases found : state.registry.entry? handle with
      | none => exact .inl ⟨_, _, .refuse found⟩
      | some entry =>
          have positive : 0 < entry.count := consistent.count_pos _ _ found
          rcases Nat.eq_or_lt_of_le positive with last | several
          · exact .inl ⟨_, _, .close found last.symm⟩
          · exact .inl ⟨_, _, .lower found several⟩
  | resolve handle => exact .inl ⟨_, _, .resolve handle⟩
  | count handle => exact .inl ⟨_, _, .count handle⟩

theorem response_of_perform {after : State}
    (ran : request.perform.run state = (.ok answer, after)) :
    state.registry.Response request answer after.registry := by
  rcases response_or_exhausted consistent request with
    ⟨expected, registry, response⟩ | ⟨object, rfl, unknown, exhausted⟩
  · obtain ⟨_, again, rfl⟩ := run_perform_of_response consistent response
    rw [ran] at again
    cases again
    exact response
  · simp [Request.perform, run_wrapObject_of_exhausted unknown exhausted] at ran

end Perform

namespace Response

variable {registry after : Registry} {request : Request} {answer : Answer} {handle : Handle}
  (response : registry.Response request answer after)

include response

theorem next_le : registry.next.number ≤ after.next.number := by
  cases response with
  | issue _ successor => exact Nat.le_of_lt (Handle.lt_of_next? successor)
  | share _ | refuse _ | lower _ _ | close _ _ | resolve _ | count _ => exact Nat.le_refl _

/-- The entries of other handles stay, and a dead handle stays dead. -/
theorem entry?_eq (unnamed : request.handle? = some handle → registry.entry? handle = none)
    (ungiven : answer.handle? ≠ some handle) : after.entry? handle = registry.entry? handle := by
  cases response with
  | issue _ _ =>
      have different : registry.next ≠ handle := fun same => ungiven (congrArg some same)
      rw [entry?_register, if_neg different]
  | share _ =>
      rw [entry?_withEntry, if_neg fun same => ungiven (congrArg some same)]
  | lower found _ =>
      rw [entry?_withEntry, if_neg]
      rintro rfl
      rw [unnamed rfl] at found
      cases found
  | close found _ =>
      rw [entry?_remove, if_neg]
      rintro rfl
      rw [unnamed rfl] at found
      cases found
  | refuse _ | resolve _ | count _ => rfl

end Response

end Boundary.Registry
