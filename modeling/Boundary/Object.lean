import Boundary.Payload
import Std.Data.TreeMap

/-!
Managed objects and the references that keep them alive. An object lives at an address as long as
someone refers to it; afterwards the address may serve another object. The serial number is never
used twice and tells such objects apart.
-/

namespace Boundary

/-- What an object holds is plain data. Nothing happens when an object ends, so what a destructor would do,
were it to call the library from within a release, is not expressed. -/
inductive Content where
  | text (value : String)
  | number (value : Int64)
  | bytes (value : List UInt8)
  deriving DecidableEq

structure Object where
  serial : Nat
  address : Address
  content : Content
  deriving DecidableEq

namespace Object

def same (left right : Object) : Bool := left.address == right.address

end Object

structure Cell where
  object : Object
  references : Nat

structure Objects where
  cells : Std.TreeMap Address Cell := {}
  created : Nat := 0

namespace Objects

def references (objects : Objects) (address : Address) : Nat :=
  match objects.cells[address]? with
  | some cell => cell.references
  | none => 0

def create (objects : Objects) (content : Content) (address : Address) : Object × Objects :=
  let object := ⟨objects.created, address, content⟩
  (object, ⟨objects.cells.insert address ⟨object, 1⟩, objects.created + 1⟩)

def retain (objects : Objects) (object : Object) : Objects :=
  { objects with
    cells := objects.cells.modify object.address fun cell =>
      { cell with references := cell.references + 1 } }

def drop (objects : Objects) (object : Object) : Objects :=
  match objects.cells[object.address]? with
  | none => objects
  | some cell =>
    if cell.references ≤ 1 then
      { objects with cells := objects.cells.erase object.address }
    else
      { objects with
        cells := objects.cells.insert object.address
          { cell with references := cell.references - 1 } }

def candidates (objects : Objects) : List Address :=
  (List.range (objects.cells.size + 1)).map fun index => 16 * (index + 1)

def freeAddress (objects : Objects) : Address :=
  (objects.candidates.find? fun address => !objects.cells.contains address).getD
    (16 * (objects.cells.size + 1))

end Objects

end Boundary
