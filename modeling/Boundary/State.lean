import Boundary.Event
import Boundary.Memory
import Boundary.Registry

/-!
The state that both sides of the boundary share, and actions on it. An action may halt; whatever it
changed before that stays changed.
-/

namespace Boundary

structure State where
  registry : Registry := {}
  objects : Objects := {}
  memory : Memory := {}
  events : List Event := []

def Action (result : Type) := State → Except Halt result × State

namespace Action

def run {result : Type} (action : Action result) (state : State) : Except Halt result × State :=
  action state

instance : Monad Action where
  pure value := fun state => (.ok value, state)
  bind action next := fun state =>
    match action state with
    | (.ok value, after) => next value after
    | (.error halt, after) => (.error halt, after)

def get : Action State := fun state => (.ok state, state)

def modify (change : State → State) : Action Unit := fun state => (.ok (), change state)

def halt {result : Type} (cause : Halt) : Action result := fun state => (.error cause, state)

def panic {result : Type} (cause : Panic) : Action result := halt (.panic cause)

def emit (event : Event) : Action Unit :=
  modify fun state => { state with events := state.events ++ [event] }

def abort {result : Type} (cause : Abort) : Action result := do
  emit (.aborting cause)
  halt (.abort cause)

/-- An action that cleans up after itself when it panics; a dying process leaves all as it is. -/
def orCleanUp {result : Type} (action : Action result) (cleanUp : Action Unit) : Action result :=
  fun state =>
    match action state with
    | (.error (.panic cause), after) => (.error (.panic cause), (cleanUp after).2)
    | outcome => outcome

@[simp] theorem run_pure {result : Type} (value : result) (state : State) :
    (pure value : Action result).run state = (.ok value, state) := rfl

@[simp] theorem run_bind {first second : Type} (action : Action first) (next : first → Action second)
    (state : State) :
    (action >>= next).run state =
      match action.run state with
      | (.ok value, after) => (next value).run after
      | (.error halt, after) => (.error halt, after) := rfl

@[simp] theorem run_map {first second : Type} (change : first → second) (action : Action first)
    (state : State) :
    (change <$> action).run state =
      match action.run state with
      | (.ok value, after) => (.ok (change value), after)
      | (.error halt, after) => (.error halt, after) := rfl

@[simp] theorem run_get (state : State) : get.run state = (.ok state, state) := rfl

@[simp] theorem run_modify (change : State → State) (state : State) :
    (modify change).run state = (.ok (), change state) := rfl

@[simp] theorem run_halt {result : Type} (cause : Halt) (state : State) :
    (halt cause : Action result).run state = (.error cause, state) := rfl

@[simp] theorem run_panic {result : Type} (cause : Panic) (state : State) :
    (panic cause : Action result).run state = (.error (.panic cause), state) := rfl

@[simp] theorem run_emit (event : Event) (state : State) :
    (emit event).run state = (.ok (), { state with events := state.events ++ [event] }) := rfl

@[simp] theorem run_abort {result : Type} (cause : Abort) (state : State) :
    (abort cause : Action result).run state =
      (.error (.abort cause), { state with events := state.events ++ [.aborting cause] }) := rfl

theorem run_orCleanUp {result : Type} (action : Action result) (cleanUp : Action Unit)
    (state : State) :
    (action.orCleanUp cleanUp).run state =
      match action.run state with
      | (.error (.panic cause), after) => (.error (.panic cause), (cleanUp.run after).2)
      | outcome => outcome := rfl

instance : LawfulMonad Action :=
  LawfulMonad.mk' Action
    (by
      intro result action
      funext state
      change (match action state with
        | (.ok value, after) => (.ok value, after)
        | (.error halt, after) => (.error halt, after)) = action state
      rcases action state with ⟨_ | _, _⟩ <;> rfl)
    (by intros; rfl)
    (by
      intro first second third action next last
      funext state
      change (match (match action state with
          | (.ok value, after) => next value after
          | (.error halt, after) => (.error halt, after)) with
        | (.ok value, after) => last value after
        | (.error halt, after) => (.error halt, after)) = (match action state with
          | (.ok value, after) => (match next value after with
            | (.ok value, after) => last value after
            | (.error halt, after) => (.error halt, after))
          | (.error halt, after) => (.error halt, after))
      rcases action state with ⟨_ | _, _⟩ <;> rfl)

end Action

end Boundary
