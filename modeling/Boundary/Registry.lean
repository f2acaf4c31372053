import Boundary.Handle
import Boundary.Object

/-!
The registry gives each registered object a handle and counts how often it was handed out. Handles
are issued in sequence and never again, so a handle whose registration ended stays dead.
-/

namespace Boundary

structure Entry where
  object : Object
  count : Nat

namespace Entry

def greatestCount : Nat := 0xffffffff

def raise (entry : Entry) : Entry :=
  { entry with count := min (entry.count + 1) greatestCount }

end Entry

structure Registry where
  entries : Std.TreeMap Nat Entry := {}
  handles : Std.TreeMap Address Handle := {}
  next : Handle := .first

namespace Registry

def entry? (registry : Registry) (handle : Handle) : Option Entry :=
  registry.entries[handle.number]?

def resolve? (registry : Registry) (handle : Handle) : Option Object :=
  (registry.entry? handle).map Entry.object

def count (registry : Registry) (handle : Handle) : Nat :=
  match registry.entry? handle with
  | some entry => entry.count
  | none => 0

def live (registry : Registry) : Nat := registry.entries.size

def isEmpty (registry : Registry) : Bool := registry.live == 0

def registration? (registry : Registry) (object : Object) : Option (Handle × Entry) :=
  match registry.handles[object.address]? with
  | none => none
  | some handle => (registry.entry? handle).map fun entry => (handle, entry)

def register (registry : Registry) (object : Object) (next : Handle) : Registry where
  entries := registry.entries.insert registry.next.number ⟨object, 1⟩
  handles := registry.handles.insert object.address registry.next
  next := next

def wrap? (registry : Registry) (object : Object) : Option (Handle × Registry) :=
  match registry.registration? object with
  | some (handle, entry) =>
    some (handle, { registry with entries := registry.entries.insert handle.number entry.raise })
  | none => registry.next.next?.map fun next => (registry.next, registry.register object next)

def remove (registry : Registry) (handle : Handle) (entry : Entry) : Registry :=
  { registry with
    entries := registry.entries.erase handle.number
    handles := registry.handles.erase entry.object.address }

/-- Take back one reference through an entry with a positive count; the last one ends the
registration. -/
def lower (registry : Registry) (handle : Handle) (entry : Entry) : Registry :=
  if entry.count = 1 then
    registry.remove handle entry
  else
    { registry with
      entries := registry.entries.insert handle.number { entry with count := entry.count - 1 } }

def debugText (registry : Registry) : String :=
  "HandleTable \x7b live: " ++ toString registry.live ++ " \x7d"

end Registry

end Boundary
