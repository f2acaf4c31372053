import Boundary.Payload
import Std.Data.TreeMap

/-!
Native memory as the library uses it: blocks of bytes at addresses, with a record of what was
allocated and what was released, in order.
-/

namespace Boundary

structure Memory where
  blocks : Std.TreeMap Address (List UInt8) := {}
  /-- Every block and every address handed out so far lies below. The first lies far above the
  handles that can be issued, so that no address is taken for a handle. -/
  frontier : Address := 0x7f0000000010
  allocated : List (Address × Nat) := []
  freed : List Address := []

/-- Where an allocator puts the next block of a given size; null if it has none. -/
abbrev Placement := Memory → Nat → Address

namespace Memory

def bump : Placement := fun memory _ => max memory.frontier 1

def reserve (memory : Memory) (address : Address) (size : Nat) : Memory :=
  { memory with
    frontier := max memory.frontier (address + (size / 16 + 1) * 16)
    allocated := memory.allocated ++ [(address, size)] }

def store (memory : Memory) (address : Address) (bytes : List UInt8) : Memory :=
  { memory with blocks := memory.blocks.insert address bytes }

def place (memory : Memory) (address : Address) (bytes : List UInt8) : Memory :=
  (memory.reserve address bytes.length).store address bytes

@[simp] theorem allocated_place (memory : Memory) (address : Address) (bytes : List UInt8) :
    (memory.place address bytes).allocated = memory.allocated ++ [(address, bytes.length)] := rfl

@[simp] theorem freed_place (memory : Memory) (address : Address) (bytes : List UInt8) :
    (memory.place address bytes).freed = memory.freed := rfl

/-- Release what lies at an address; releasing null has no effect but is recorded all the same. -/
def free (memory : Memory) (address : Address) : Memory :=
  { memory with blocks := memory.blocks.erase address, freed := memory.freed ++ [address] }

def tail? (memory : Memory) (address : Address) : Option (List UInt8) :=
  (memory.blocks.toList.find? fun block =>
      decide (block.1 ≤ address) && decide (address < block.1 + block.2.length)).map
    fun block => block.2.drop (address - block.1)

def read? (memory : Memory) (address : Address) (count : Nat) : Option (List UInt8) :=
  if count = 0 then
    some []
  else
    (memory.tail? address).bind fun bytes =>
      if count ≤ bytes.length then some (bytes.take count) else none

def readTerminated? (memory : Memory) (address : Address) : Option (List UInt8) :=
  (memory.tail? address).bind fun bytes =>
    if bytes.contains 0 then some (bytes.takeWhile (· != 0)) else none

end Memory

end Boundary
