import Boundary.Decoding
import Boundary.Layout.Metadata

/-!
One side's view of the boundary: the platform, and the thread on which objects may be encoded. With
checks on, a call from another thread with an object anywhere in its values encodes nothing at all.
-/

namespace Boundary

abbrev Thread := Nat

structure Bridge where
  platform : Platform
  checks : Bool
  home : Thread
  deriving DecidableEq

namespace Bridge

def create (home : Thread) : Action Bridge := do
  .emit (.bound Platform.current.integerTag)
  pure ⟨.current, true, home⟩

def onHomeThread (bridge : Bridge) (thread : Thread) : Bool := thread == bridge.home

def guard (bridge : Bridge) (thread : Thread) (value : Value) : Action Unit :=
  if bridge.checks && value.needsWrap && !bridge.onHomeThread thread then
    .panic .offEngineThread
  else
    pure ()

def guardAll (bridge : Bridge) (thread : Thread) : List Value → Action Unit
  | [] => pure ()
  | value :: rest => do
    bridge.guard thread value
    bridge.guardAll thread rest

def pack (bridge : Bridge) (thread : Thread) (value : Value) : Action Record := do
  bridge.guard thread value
  Boundary.pack bridge.platform value

def packAll (bridge : Bridge) (thread : Thread) (values : List Value) : Action (List Record) := do
  bridge.guardAll thread values
  Boundary.packAll bridge.platform values

def tagOfType (bridge : Bridge) (type : HostType) : Action (Except Error Tag) :=
  Boundary.tagOfType type bridge.platform

def layout (bridge : Bridge) (composite : Composite) : Action (Except Error Layout) :=
  composite.layout bridge.platform

def exportComposite (bridge : Bridge) (placement : Placement) (composite : Composite) :
    Action (Except Error Address) := do
  match ← bridge.layout composite with
  | .error error => pure (.error error)
  | .ok layout => do
    let address ← layout.toNative placement
    pure (.ok address)

end Bridge

end Boundary
