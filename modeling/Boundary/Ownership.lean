import Boundary.State

/-!
Handing out, taking back and resolving handles. The registry holds one reference to each registered
object, however often its handle was handed out.
-/

namespace Boundary

def retainObject (object : Object) : Action Unit :=
  .modify fun state => { state with objects := state.objects.retain object }

def dropObject (object : Object) : Action Unit :=
  .modify fun state => { state with objects := state.objects.drop object }

def setRegistry (registry : Registry) : Action Unit :=
  .modify fun state => { state with registry := registry }

def wrapObject (object : Object) : Action Handle := do
  let before := (← .get).registry
  match before.wrap? object with
  | none => .panic (.handlesExhausted before.next.number)
  | some (handle, after) =>
    setRegistry after
    .emit (.wrapped handle (after.count handle))
    if (before.resolve? handle).isNone then
      retainObject object
    pure handle

def releaseHandle (handle : Handle) : Action Bool := do
  let before := (← .get).registry
  match before.entry? handle with
  | none => pure false
  | some entry =>
    if entry.count = 0 then
      .panic .referencesUnderflow
    else
      let after := before.lower handle entry
      setRegistry after
      .emit (.released handle (after.count handle))
      if (after.resolve? handle).isNone then
        dropObject entry.object
      pure true

def resolveHandle (handle : Handle) : Action (Option Object) := do
  match (← .get).registry.resolve? handle with
  | none => pure none
  | some object =>
    retainObject object
    pure (some object)

end Boundary
