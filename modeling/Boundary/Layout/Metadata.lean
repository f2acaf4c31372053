import Boundary.Layout

/-!
Layouts in native memory: the type name and the names as blocks, an array of member entries, and a
record that points at the three. Everything belongs to native code until the record is released.
-/

namespace Boundary

structure MemberEntry where
  name : Address
  raw : Int32
  index : Nat
  deriving DecidableEq

namespace MemberEntry

def size : Nat := 16

def typeOffset : Nat := 8

def indexOffset : Nat := 12

def toBytes (entry : MemberEntry) : List UInt8 :=
  Bytes.littleEndian 8 entry.name ++ Bytes.littleEndian 4 entry.raw.toUInt32.toNat ++
    Bytes.littleEndian 4 entry.index

def ofBytes (bytes : List UInt8) : MemberEntry where
  name := Bytes.toNat (bytes.take 8)
  raw := (UInt32.ofNat (Bytes.toNat ((bytes.drop typeOffset).take 4))).toInt32
  index := Bytes.toNat ((bytes.drop indexOffset).take 4)

end MemberEntry

structure Metadata where
  typeName : Address
  names : Address
  members : Address
  count : Nat
  deriving DecidableEq

namespace Metadata

def size : Nat := 32

def namesOffset : Nat := 8

def membersOffset : Nat := 16

def countOffset : Nat := 24

def toBytes (metadata : Metadata) : List UInt8 :=
  Bytes.littleEndian 8 metadata.typeName ++ Bytes.littleEndian 8 metadata.names ++
    Bytes.littleEndian 8 metadata.members ++ Bytes.littleEndian 4 metadata.count ++
    List.replicate 4 0

def ofBytes (bytes : List UInt8) : Metadata where
  typeName := Bytes.toNat (bytes.take 8)
  names := Bytes.toNat ((bytes.drop namesOffset).take 8)
  members := Bytes.toNat ((bytes.drop membersOffset).take 8)
  count := Bytes.toNat ((bytes.drop countOffset).take 4)

def read? (memory : Memory) (address : Address) : Option Metadata :=
  (memory.read? address size).map ofBytes

def entry? (memory : Memory) (metadata : Metadata) (index : Nat) : Option MemberEntry :=
  (memory.read? (metadata.members + MemberEntry.size * index) MemberEntry.size).map
    MemberEntry.ofBytes

end Metadata

structure Block where
  address : Address
  size : Nat

/-- Ask an allocator for a block. The process ends where it has none. -/
def allocate (placement : Placement) (size : Nat) : Action Block := do
  let address := placement (← .get).memory size
  if address = 0 then
    .halt (.outOfMemory size)
  else do
    .modify fun state => { state with memory := state.memory.reserve address size }
    pure ⟨address, size⟩

/-- Write bytes to a block from its start on. Those that do not fit are written outside. -/
def Block.fill (block : Block) (bytes : List UInt8) : Action Unit :=
  if bytes.length ≤ block.size then
    .modify fun state => { state with memory := state.memory.store block.address bytes }
  else
    .halt (.fault (block.address + block.size) (bytes.length - block.size))

def supply (placement : Placement) (size : Nat) (bytes : List UInt8) : Action Address := do
  let block ← allocate placement size
  block.fill bytes
  pure block.address

namespace Layout

def copyBytes (placement : Placement) (bytes : List UInt8) : Action Address := do
  let _ ← checkedLength bytes.length
  supply placement bytes.length bytes

def copyText (placement : Placement) (bytes : List UInt8) : Action Address := do
  let _ ← checkedLength bytes.length
  supply placement (bytes.length + 1) (bytes ++ [0])

def entryBytes (layout : Layout) (names : Address) : List UInt8 :=
  layout.members.flatMap fun member =>
    MemberEntry.toBytes ⟨names + member.offset, member.tag.ordinal, member.index⟩

def toNative (layout : Layout) (placement : Placement) : Action Address := do
  let typeName ← copyText placement (Utf8.bytes layout.typeName)
  let names ← copyBytes placement layout.names
  let members ←
    supply placement (MemberEntry.size * layout.members.length) (layout.entryBytes names)
  let metadata := ⟨typeName, names, members, layout.members.length⟩
  let record ← supply placement Metadata.size (Metadata.toBytes metadata)
  .emit (.exported layout.typeName layout.members.length)
  pure record

end Layout

def freeMetadata (address : Address) : Action Unit := do
  match Metadata.read? (← .get).memory address with
  | none => .halt (.fault address Metadata.size)
  | some metadata =>
    let memory := (← .get).memory
    let after := (((memory.free metadata.members).free metadata.names).free
      metadata.typeName).free address
    .modify fun state => { state with memory := after }

end Boundary
