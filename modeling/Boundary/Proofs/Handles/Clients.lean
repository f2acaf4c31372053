import Boundary.Proofs.Handles.Identity
import Boundary.Proofs.Handles.Renaming

/-!
Clients that share a registry, each with objects of its own and with no handles but those it was
given. Main statement: whatever the others do in between, a client is answered as if it were alone,
apart from the numbers of its handles.
-/

namespace Boundary

open Registry (Request Answer Response Mirrors)

structure Turn (Client : Type) where
  client : Client
  request : Request
  answer : Answer
  deriving DecidableEq

variable {Client : Type}

def owned (log : List (Turn Client)) (client : Client) : Set Handle :=
  {handle | ∃ object, ⟨client, .wrap object, .given handle⟩ ∈ log}

theorem owned_append {log : List (Turn Client)} {client : Client} {handle : Handle}
    (mine : handle ∈ owned log client) (later : List (Turn Client)) :
    handle ∈ owned (log ++ later) client := by
  obtain ⟨object, wrapped⟩ := mine
  exact ⟨object, List.mem_append_left later wrapped⟩

theorem owned_append_self {log : List (Turn Client)} {client : Client} {request : Request}
    {answer : Answer} {registry after : Registry}
    (response : registry.Response request answer after) :
    owned (log ++ [⟨client, request, answer⟩]) client = answer.extend (owned log client) := by
  ext handle
  constructor
  · rintro ⟨object, wrapped⟩
    rcases List.mem_append.1 wrapped with old | new
    · exact Answer.subset_extend _ answer ⟨object, old⟩
    · cases List.mem_singleton.1 new
      exact Set.mem_insert _ _
  · intro member
    cases response with
    | issue _ _ | share _ =>
        rcases Set.mem_insert_iff.1 member with rfl | old
        · exact ⟨_, List.mem_append_right _ (List.mem_singleton_self _)⟩
        · exact owned_append old _
    | refuse _ | lower _ _ | close _ _ | resolve _ | count _ => exact owned_append member _

theorem owned_append_other {log : List (Turn Client)} {client : Client} {turn : Turn Client}
    (different : turn.client ≠ client) : owned (log ++ [turn]) client = owned log client := by
  ext handle
  constructor
  · rintro ⟨object, wrapped⟩
    rcases List.mem_append.1 wrapped with old | new
    · exact ⟨object, old⟩
    · cases List.mem_singleton.1 new
      exact absurd rfl different
  · intro member
    exact owned_append member _

section Alone

variable [DecidableEq Client] {log : List (Turn Client)} {client : Client} {turn : Turn Client}
  {rename change : Handle → Handle} {registry : Registry}

def turnsOf (log : List (Turn Client)) (client : Client) : List (Turn Client) :=
  log.filter fun turn => turn.client = client

/-- The turns of one client go the same way under renamed handles where the registry is new, and
lead to a certain registry. -/
def Replays (log : List (Turn Client)) (client : Client) (rename : Handle → Handle)
    (registry : Registry) : Prop :=
  ∀ alone : State, alone.registry = {} → ∃ after,
    (((turnsOf log client).map fun turn => turn.request.rename rename).mapM
      Request.perform).run alone =
        (.ok ((turnsOf log client).map fun turn => turn.answer.rename rename), after) ∧
    after.registry = registry

theorem turnsOf_append_other (different : turn.client ≠ client) :
    turnsOf (log ++ [turn]) client = turnsOf log client := by
  simp [turnsOf, different]

theorem turnsOf_append_self (log : List (Turn Client)) (turn : Turn Client) :
    turnsOf (log ++ [turn]) turn.client = turnsOf log turn.client ++ [turn] := by
  simp [turnsOf]

namespace Replays

theorem congr (replays : Replays log client rename registry)
    (agree : ∀ turn ∈ turnsOf log client, ∀ handle,
      turn.request.handle? = some handle ∨ turn.answer.handle? = some handle →
        change handle = rename handle) :
    Replays log client change registry := by
  have requests : (turnsOf log client).map (fun turn => turn.request.rename change) =
      (turnsOf log client).map fun turn => turn.request.rename rename := by
    apply List.map_congr_left
    intro turn member
    exact Request.rename_congr fun handle named => agree turn member handle (.inl named)
  have answers : (turnsOf log client).map (fun turn => turn.answer.rename change) =
      (turnsOf log client).map fun turn => turn.answer.rename rename := by
    apply List.map_congr_left
    intro turn member
    exact Answer.rename_congr fun handle given => agree turn member handle (.inr given)
  intro alone fresh
  rw [requests, answers]
  exact replays alone fresh

theorem extend {request : Request} {answer : Answer} {after : Registry}
    (replays : Replays log client rename registry) (consistent : registry.Consistent)
    (response : registry.Response (request.rename rename) (answer.rename rename) after) :
    Replays (log ++ [⟨client, request, answer⟩]) client rename after := by
  intro alone fresh
  obtain ⟨reached, ran, same⟩ := replays alone fresh
  subst same
  obtain ⟨last, performed, same⟩ := Registry.run_perform_of_response consistent response
  refine ⟨last, ?_, same⟩
  rw [turnsOf_append_self log ⟨client, request, answer⟩, List.map_append, List.map_append,
    List.mapM_append, Action.run_bind, ran]
  simp [performed]

theorem skip (replays : Replays log client rename registry) (different : turn.client ≠ client) :
    Replays (log ++ [turn]) client rename registry := by
  unfold Replays
  rw [turnsOf_append_other different]
  exact replays

end Replays

end Alone

namespace World

/-- A client wraps objects that it refers to and that no other client wraps, and names handles of
its own. -/
def Admits (world : World) (log : List (Turn Client)) (client : Client) : Request → Prop
  | .wrap object =>
    object ∈ world.held ∧ ∀ turn ∈ log, turn.request = .wrap object → turn.client = client
  | .release handle | .resolve handle | .count handle => handle ∈ owned log client

theorem Admits.owned_of_named {world : World} {log : List (Turn Client)} {client : Client}
    {request : Request} {handle : Handle} (admitted : world.Admits log client request)
    (named : request.handle? = some handle) : handle ∈ owned log client := by
  cases request with
  | wrap _ => cases named
  | release _ | resolve _ | count _ =>
      cases named
      exact admitted

def answered (world : World) (answer : Answer) (after : State) : World :=
  ⟨after, answer.references + world.held⟩

end World

/-- The turns of clients in any order, from before any call. What else happens in between reaches no
registry. -/
inductive Shared : List (Turn Client) → World → Prop
  | start : Shared [] World.initial
  | turn {log : List (Turn Client)} {world : World} {client : Client} {request : Request}
      {answer : Answer} {after : State} :
      Shared log world → world.Admits log client request →
      request.perform.run world.state = (.ok answer, after) →
      Shared (log ++ [⟨client, request, answer⟩]) (world.answered answer after)
  | call {log : List (Turn Client)} {world after : World} {call : Call} :
      Shared log world → world.Permits call → world.exchanges call = [] →
      world.perform? call = some after → Shared log after

def Turn.handedOut? (turn : Turn Client) : Option (Object × Handle) :=
  match turn.request, turn.answer with
  | .wrap object, .given handle => some (object, handle)
  | _, _ => none

theorem Turn.handedOut?_eq_some_iff {turn : Turn Client} {object : Object} {handle : Handle} :
    turn.handedOut? = some (object, handle) ↔
      turn.request = .wrap object ∧ turn.answer = .given handle := by
  obtain ⟨client, request, answer⟩ := turn
  cases request <;> cases answer <;> simp [handedOut?]

theorem Action.run_of_map_ok {first second : Type} {change : first → second}
    {action : Action first} {state after : State} {result : second}
    (ran : (change <$> action).run state = (.ok result, after)) :
    ∃ value, action.run state = (.ok value, after) ∧ change value = result := by
  rw [Action.run_map] at ran
  split at ran
  · rename_i value reached outcome
    cases ran
    exact ⟨value, outcome, rfl⟩
  · cases ran

theorem handedOut_wrapExchanges {object : Object} {handle : Handle} {state after : State}
    (ran : (wrapObject object).run state = (.ok handle, after)) :
    handedOut (wrapExchanges object state) = [(object, handle)] := by
  unfold wrapExchanges Exchange.ofWrap
  rw [ran]
  dsimp only
  split
  · rfl
  · rfl

theorem handedOut_releaseExchanges (handle : Handle) (state : State) :
    handedOut (releaseExchanges handle state) = [] := by
  unfold releaseExchanges Exchange.ofRelease
  split
  · split
    · rfl
    · rfl
  · rfl

namespace World

theorem Run.answered {start world : World} {history : List Exchange} {request : Request}
    {answer : Answer} {after : State} (client : Client) (run : start.Run history world)
    (held : ∀ object, request = .wrap object → object ∈ world.held)
    (ran : request.perform.run world.state = (.ok answer, after)) :
    ∃ later, start.Run (history ++ later) (world.answered answer after) ∧
      handedOut later = (Turn.mk client request answer).handedOut?.toList := by
  cases request with
  | wrap object =>
      obtain ⟨handle, outcome, rfl⟩ := Action.run_of_map_ok ran
      refine ⟨_, run.call (.wrap object) (held object rfl) ?_, handedOut_wrapExchanges outcome⟩
      simp only [perform?, after?, outcome]
      rfl
  | release handle =>
      obtain ⟨success, outcome, rfl⟩ := Action.run_of_map_ok ran
      refine ⟨_, run.call (.release handle) trivial ?_, handedOut_releaseExchanges handle _⟩
      simp only [perform?, after?, outcome]
      rfl
  | resolve handle =>
      obtain ⟨object, outcome, rfl⟩ := Action.run_of_map_ok ran
      refine ⟨_, run.call (.resolve handle) trivial ?_, rfl⟩
      simp only [perform?, after?, outcome]
      rfl
  | count handle =>
      obtain ⟨state, outcome, rfl⟩ := Action.run_of_map_ok ran
      cases outcome
      refine ⟨[], ?_, rfl⟩
      rw [List.append_nil]
      simpa [World.answered, Answer.references] using run

end World

namespace Custody

variable {start custody after : Custody} {history exchanges : List Exchange}

theorem Moves.registry_eq (moves : start.Moves history custody) (quiet : history = []) :
    custody.registry = start.registry := by
  induction moves with
  | refl => rfl
  | tail _ move ih =>
      obtain ⟨before, now⟩ := List.append_eq_nil_iff.1 quiet
      rw [← ih before]
      cases move with
      | issue _ _ _ | share _ _ | lower _ _ | close _ _ => cases now
      | create _ _ _ | copy _ | drop _ | take _ => rfl

theorem Moves.handedOut_of_resolve? (moves : start.Moves history custody)
    (unused : ∀ handle, start.registry.resolve? handle = none) {handle : Handle} {object : Object}
    (resolved : custody.registry.resolve? handle = some object) :
    (object, handle) ∈ handedOut history := by
  induction moves with
  | refl =>
      rw [unused] at resolved
      cases resolved
  | tail earlier move ih =>
      rw [handedOut_append, List.mem_append]
      cases move with
      | issue _ _ _ =>
          rw [Registry.resolve?_register] at resolved
          split at resolved
          · rename_i here
            cases here
            cases resolved
            exact .inr List.mem_cons_self
          · exact .inl (ih resolved)
      | @share _ _ entry _ known =>
          have found := Registry.entry?_of_registration? known
          have same : entry.raise.object = entry.object := rfl
          rw [Registry.resolve?_withEntry found same] at resolved
          exact .inl (ih resolved)
      | @lower _ entry found _ =>
          have same : { entry with count := entry.count - 1 }.object = entry.object := rfl
          rw [Registry.resolve?_withEntry found same] at resolved
          exact .inl (ih resolved)
      | close _ _ =>
          rw [Registry.resolve?_remove] at resolved
          split at resolved
          · cases resolved
          · exact .inl (ih resolved)
      | create _ _ _ | copy _ | drop _ | take _ => exact .inl (ih resolved)

end Custody

namespace Shared

variable {log : List (Turn Client)} {world : World} {client other : Client} {handle : Handle}
  {object : Object}

theorem exists_run (shared : Shared log world) :
    ∃ history, World.initial.Run history world ∧
      handedOut history = log.filterMap Turn.handedOut? := by
  induction shared with
  | start => exact ⟨[], .refl, rfl⟩
  | @turn log world client request answer after _ admitted ran ih =>
      obtain ⟨history, run, same⟩ := ih
      have held : ∀ object, request = .wrap object → object ∈ world.held := by
        rintro object rfl
        exact admitted.1
      obtain ⟨later, run, new⟩ := run.answered client held ran
      refine ⟨_, run, ?_⟩
      rw [handedOut_append, same, new, List.filterMap_append]
      cases gave : Turn.handedOut? ⟨client, request, answer⟩
      · simp [gave]
      · simp [gave]
  | @call log world after call _ permitted quiet performed ih =>
      obtain ⟨history, run, same⟩ := ih
      have more := run.call call permitted performed
      rw [quiet, List.append_nil] at more
      exact ⟨history, more, same⟩

theorem sound (shared : Shared log world) : world.custody.Sound := by
  obtain ⟨_, run, _⟩ := shared.exists_run
  exact run.sound

theorem wrapped_of_resolve? (shared : Shared log world)
    (resolved : world.registry.resolve? handle = some object) :
    ∃ client, ⟨client, .wrap object, .given handle⟩ ∈ log := by
  obtain ⟨history, run, same⟩ := shared.exists_run
  have wrapped := (run.moves .empty).handedOut_of_resolve? (fun _ => rfl) resolved
  rw [same, List.mem_filterMap] at wrapped
  obtain ⟨⟨client, request, answer⟩, member, gave⟩ := wrapped
  obtain ⟨rfl, rfl⟩ := Turn.handedOut?_eq_some_iff.1 gave
  exact ⟨client, member⟩

theorem object_of_wrapped (shared : Shared log world) {found : Object}
    (wrapped : ⟨client, .wrap object, .given handle⟩ ∈ log)
    (resolved : world.registry.resolve? handle = some found) : found = object := by
  obtain ⟨history, run, same⟩ := shared.exists_run
  apply (run.moves .empty).eq_of_handedOut .empty ?_ resolved
  rw [same, List.mem_filterMap]
  exact ⟨_, wrapped, Turn.handedOut?_eq_some_iff.2 ⟨rfl, rfl⟩⟩

theorem client_of_wrapped (shared : Shared log world) {otherHandle : Handle}
    (mine : ⟨client, .wrap object, .given handle⟩ ∈ log)
    (theirs : ⟨other, .wrap object, .given otherHandle⟩ ∈ log) : client = other := by
  induction shared with
  | start => cases mine
  | turn _ admitted _ ih =>
      rcases List.mem_append.1 mine with mineOld | mineNew
      · rcases List.mem_append.1 theirs with theirsOld | theirsNew
        · exact ih mineOld theirsOld
        · cases List.mem_singleton.1 theirsNew
          exact admitted.2 _ mineOld rfl
      · cases List.mem_singleton.1 mineNew
        rcases List.mem_append.1 theirs with theirsOld | theirsNew
        · exact (admitted.2 _ theirsOld rfl).symm
        · cases List.mem_singleton.1 theirsNew
          rfl
  | call _ _ _ _ ih => exact ih mine theirs

theorem client_of_owned (shared : Shared log world) (mine : handle ∈ owned log client)
    (theirs : handle ∈ owned log other)
    (resolved : world.registry.resolve? handle = some object) : client = other := by
  obtain ⟨left, mine⟩ := mine
  obtain ⟨right, theirs⟩ := theirs
  obtain rfl := shared.object_of_wrapped mine resolved
  obtain rfl := shared.object_of_wrapped theirs resolved
  exact shared.client_of_wrapped mine theirs

theorem owned_of_known (shared : Shared log world) {entry : Entry}
    (admitted : world.Admits log client (.wrap object))
    (known : world.registry.registration? object = some (handle, entry)) :
    handle ∈ owned log client := by
  have found := Registry.entry?_of_registration? known
  have same := shared.sound.object_of_registration?
    (shared.sound.live_of_held admitted.1) known
  obtain ⟨other, wrapped⟩ := shared.wrapped_of_resolve? (Registry.resolve?_of_found found)
  rw [same] at wrapped
  obtain rfl : other = client := admitted.2 _ wrapped rfl
  exact ⟨object, wrapped⟩

/-- What one client asks for leaves the handles of another one alone. -/
theorem entry?_eq_of_other (shared : Shared log world) {request : Request} {answer : Answer}
    {registry : Registry} (admitted : world.Admits log other request)
    (response : world.registry.Response request answer registry) (different : other ≠ client)
    (mine : handle ∈ owned log client) (below : handle.number < world.registry.next.number) :
    registry.entry? handle = world.registry.entry? handle := by
  have dead : handle ∈ owned log other → world.registry.entry? handle = none := by
    intro theirs
    by_contra live
    obtain ⟨entry, found⟩ := Option.ne_none_iff_exists'.1 live
    exact different
      (shared.client_of_owned theirs mine (Registry.resolve?_of_found found))
  apply response.entry?_eq
  · intro named
    exact dead (admitted.owned_of_named named)
  · intro given
    cases response with
    | issue _ _ =>
        cases given
        exact Nat.lt_irrefl _ below
    | share known =>
        cases given
        have found := Registry.entry?_of_registration? known
        rw [dead (shared.owned_of_known admitted known)] at found
        cases found
    | refuse _ | lower _ _ | close _ _ | resolve _ | count _ => cases given

theorem owned_of_mentioned (shared : Shared log world) {turn : Turn Client} (member : turn ∈ log)
    (mentioned : turn.request.handle? = some handle ∨ turn.answer.handle? = some handle) :
    handle ∈ owned log turn.client := by
  induction shared with
  | start => cases member
  | turn shared admitted ran ih =>
      rcases List.mem_append.1 member with old | new
      · exact owned_append (ih old) _
      · cases List.mem_singleton.1 new
        rcases mentioned with named | given
        · exact owned_append (admitted.owned_of_named named) _
        · have response := Registry.response_of_perform shared.sound.registry ran
          rw [owned_append_self response]
          exact Answer.mem_extend given
  | call _ _ _ _ ih => exact ih member

theorem mirrored [DecidableEq Client] (shared : Shared log world) (client : Client) :
    ∃ rename registry, Mirrors (owned log client) rename world.registry registry ∧
      Replays log client rename registry := by
  induction shared with
  | start =>
      refine ⟨id, {}, ?_, ?_⟩
      · have none : owned [] client = ∅ := Set.eq_empty_iff_forall_notMem.2 (by simp [owned])
        rw [none]
        exact .empty id
      · intro alone fresh
        exact ⟨alone, rfl, fresh⟩
  | @turn log world speaker request answer after shared admitted ran ih =>
      obtain ⟨rename, registry, mirrors, replays⟩ := ih
      have consistent : world.registry.Consistent := shared.sound.registry
      have response := Registry.response_of_perform consistent ran
      by_cases mine : speaker = client
      · -- Both registries answer; the renaming may grow by the handle that was given.
        subst mine
        obtain ⟨change, registryAfter, agree, answered, mirrorsAfter⟩ :=
          mirrors.respond consistent response (fun _ named => admitted.owned_of_named named) (by
            rintro object handle entry rfl known
            exact shared.owned_of_known admitted known)
        refine ⟨change, registryAfter, ?_, ?_⟩
        · rw [owned_append_self response]
          exact mirrorsAfter
        · refine Replays.extend ?_ mirrors.consistent answered
          apply replays.congr
          intro turn member handle mentioned
          obtain ⟨inLog, same⟩ := List.mem_filter.1 member
          obtain rfl := of_decide_eq_true same
          exact agree (shared.owned_of_mentioned inLog mentioned)
      · -- The registry of its own stays as it is.
        refine ⟨rename, registry, ?_, ?_⟩
        · rw [owned_append_other mine]
          refine mirrors.frame ?_ response.next_le
          intro handle owns
          exact shared.entry?_eq_of_other admitted response mine owns (mirrors.lt_next handle owns)
        · exact replays.skip mine
  | @call log world after call shared permitted quiet performed ih =>
      obtain ⟨rename, registry, mirrors, replays⟩ := ih
      have moves := World.perform?_moves shared.sound permitted performed
      have kept : after.registry = world.registry := moves.registry_eq quiet
      refine ⟨rename, registry, ?_, replays⟩
      rw [kept]
      exact mirrors

end Shared

section Play

variable [DecidableEq Client]

instance (log : List (Turn Client)) (client : Client) (handle : Handle) :
    Decidable (handle ∈ owned log client) :=
  decidable_of_iff (∃ turn ∈ log, turn.client = client ∧
      turn.handedOut?.map Prod.snd = some handle) <| by
    constructor
    · rintro ⟨⟨_, request, answer⟩, member, rfl, gave⟩
      obtain ⟨⟨object, _⟩, wrapped, rfl⟩ := Option.map_eq_some_iff.1 gave
      obtain ⟨rfl, rfl⟩ := Turn.handedOut?_eq_some_iff.1 wrapped
      exact ⟨object, member⟩
    · rintro ⟨object, member⟩
      exact ⟨_, member, rfl, rfl⟩

instance (world : World) (log : List (Turn Client)) (client : Client) :
    (request : Request) → Decidable (world.Admits log client request)
  | .wrap object => inferInstanceAs (Decidable
      (object ∈ world.held ∧ ∀ turn ∈ log, turn.request = .wrap object → turn.client = client))
  | .release handle | .resolve handle | .count handle =>
    inferInstanceAs (Decidable (handle ∈ owned log client))

def play? (log : List (Turn Client)) (world : World) :
    List (Call ⊕ Client × Request) → Option (List (Turn Client) × World)
  | [] => some (log, world)
  | .inl call :: rest =>
    if world.Permits call ∧ world.exchanges call = [] then
      (world.perform? call).bind fun after => play? log after rest
    else
      none
  | .inr (client, request) :: rest =>
    if world.Admits log client request then
      match request.perform.run world.state with
      | (.ok answer, after) =>
        play? (log ++ [⟨client, request, answer⟩]) (world.answered answer after) rest
      | (.error _, _) => none
    else
      none

theorem shared_of_play? {log later : List (Turn Client)} {world after : World}
    {steps : List (Call ⊕ Client × Request)} (shared : Shared log world)
    (played : play? log world steps = some (later, after)) : Shared later after := by
  induction steps generalizing log world with
  | nil =>
      cases played
      exact shared
  | cons step rest ih =>
      cases step with
      | inl call =>
          rw [play?] at played
          split at played
          · rename_i allowed
            obtain ⟨middle, performed, remaining⟩ := Option.bind_eq_some_iff.1 played
            exact ih (shared.call allowed.1 allowed.2 performed) remaining
          · cases played
      | inr turn =>
          rw [play?] at played
          split at played
          · rename_i admitted
            split at played
            · rename_i ran
              exact ih (shared.turn admitted ran) played
            · cases played
          · cases played

end Play

/-- Clients that share a registry do not notice each other. In every run, a client's requests could be
made under other handles, different ones for different ones, on a registry of its own, and would get
the same answers under these handles. A request that a client may make is answered, unless it calls
for a new handle when all are used up. -/
theorem clients_do_not_interfere [DecidableEq Client] {log : List (Turn Client)} {world : World}
    (shared : Shared log world) (client : Client) :
    (∃ rename : Handle → Handle, Set.InjOn rename (owned log client) ∧
        ∀ alone : State, alone.registry = {} → ∃ after,
          (((turnsOf log client).map fun turn => turn.request.rename rename).mapM
            Request.perform).run alone =
              (.ok ((turnsOf log client).map fun turn => turn.answer.rename rename), after)) ∧
      ∀ request, world.Admits log client request →
        (∃ answer after, request.perform.run world.state = (.ok answer, after)) ∨
          ∃ object, request = .wrap object ∧ request.perform.run world.state =
            (.error (.panic (.handlesExhausted (UInt64.size - 1))), world.state) := by
  have consistent : world.registry.Consistent := shared.sound.registry
  constructor
  · obtain ⟨rename, registry, mirrors, replays⟩ := shared.mirrored client
    refine ⟨rename, mirrors.injective, ?_⟩
    intro alone fresh
    obtain ⟨after, ran, _⟩ := replays alone fresh
    exact ⟨after, ran⟩
  · intro request _
    rcases Registry.response_or_exhausted consistent request with
      ⟨answer, registry, response⟩ | ⟨object, rfl, unknown, exhausted⟩
    · obtain ⟨after, ran, _⟩ := Registry.run_perform_of_response consistent response
      exact .inl ⟨answer, after, ran⟩
    · refine .inr ⟨object, rfl, ?_⟩
      rw [← Handle.number_of_exhausted exhausted]
      simp [Request.perform, run_wrapObject_of_exhausted unknown exhausted]

namespace Sample

def other : Object := ⟨1, 32, .text "other"⟩

def encounter : List (Call ⊕ Bool × Request) := [
  .inl (.create World.firstObject.content 16),
  .inl (.create other.content 32),
  .inr (true, .wrap World.firstObject),
  .inr (false, .wrap other),
  .inr (true, .release .first),
  .inr (false, .count World.second),
  .inr (true, .wrap World.firstObject),
  .inr (true, .release .first),
  .inr (false, .resolve World.second)]

end Sample

theorem clients_do_not_meet :
    ∃ (log : List (Turn Bool)) (world : World) (rename : Handle → Handle), Shared log world ∧
      turnsOf log true = [
        ⟨true, .wrap World.firstObject, .given .first⟩,
        ⟨true, .release .first, .released true⟩,
        ⟨true, .wrap World.firstObject, .given World.third⟩,
        ⟨true, .release .first, .released false⟩] ∧
      rename .first ≠ rename World.third ∧
      ∀ alone : State, alone.registry = {} → ∃ after,
        ([.wrap World.firstObject, .release (rename .first), .wrap World.firstObject,
          .release (rename .first)].mapM Request.perform).run alone =
            (.ok [.given (rename .first), .released true, .given (rename World.third),
              .released false], after) := by
  have checked : (play? [] World.initial Sample.encounter).any (fun result =>
      decide (turnsOf result.1 true = [
        ⟨true, .wrap World.firstObject, .given .first⟩,
        ⟨true, .release .first, .released true⟩,
        ⟨true, .wrap World.firstObject, .given World.third⟩,
        ⟨true, .release .first, .released false⟩])) = true := by decide +kernel
  obtain ⟨⟨log, world⟩, played, holds⟩ := (Option.any_eq_true _ _).1 checked
  have turns := of_decide_eq_true holds
  have shared : Shared log world := shared_of_play? .start played
  obtain ⟨⟨rename, injective, replays⟩, _⟩ := clients_do_not_interfere shared true
  have mine (handle : Handle)
      (member : ⟨true, .wrap World.firstObject, .given handle⟩ ∈ turnsOf log true) :
      handle ∈ owned log true := ⟨World.firstObject, (List.mem_filter.1 member).1⟩
  rw [turns] at mine
  refine ⟨log, world, rename, shared, turns, ?_, ?_⟩
  · intro same
    have equal := injective (mine .first (by decide)) (mine World.third (by decide)) same
    exact absurd equal (by decide)
  · intro alone fresh
    obtain ⟨after, ran⟩ := replays alone fresh
    rw [turns] at ran
    exact ⟨after, ran⟩

end Boundary
