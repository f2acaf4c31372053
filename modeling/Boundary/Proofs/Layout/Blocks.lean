import Boundary.Layout.Metadata
import Boundary.Proofs.Memory.Turnover

/-!
The four blocks of an exported layout. Main statement: an allocator that finds room puts them at
addresses of their own, and an export does nothing else.
-/

namespace Boundary

@[simp] theorem MemberEntry.length_toBytes (entry : MemberEntry) : entry.toBytes.length = size := by
  simp [toBytes, size]

@[simp] theorem Metadata.length_toBytes (metadata : Metadata) : metadata.toBytes.length = size := by
  simp [toBytes, size]

theorem run_checkedLength {size : Nat} (short : size ≤ greatestLength) (state : State) :
    (checkedLength size).run state = (.ok (Int32.ofNat size), state) := by
  rw [checkedLength, if_pos short]
  rfl

section Fill

variable {placement : Placement} {state : State}

theorem run_allocate_of_null {size : Nat} (null : placement state.memory size = 0) :
    (allocate placement size).run state = (.error (.outOfMemory size), state) := by
  simp [allocate, null]

theorem run_allocate {size : Nat} (granted : placement state.memory size ≠ 0) :
    (allocate placement size).run state = (.ok ⟨placement state.memory size, size⟩, { state with
      memory := state.memory.reserve (placement state.memory size) size }) := by
  simp [allocate, granted]

theorem run_supply {size : Nat} {bytes : List UInt8} (whole : bytes.length = size)
    (granted : placement state.memory size ≠ 0) :
    (supply placement size bytes).run state = (.ok (placement state.memory size), { state with
      memory := state.memory.place (placement state.memory size) bytes }) := by
  subst whole
  simp only [supply, Action.run_bind, run_allocate granted, Block.fill, Nat.le_refl, if_true,
    Action.run_modify, Action.run_pure]
  rfl

end Fill

namespace Layout

def blockSizes (layout : Layout) : List Nat := [
  (Utf8.bytes layout.typeName).length + 1, layout.names.length,
  MemberEntry.size * layout.members.length, Metadata.size]

theorem length_entryBytes (layout : Layout) (names : Address) :
    (layout.entryBytes names).length = MemberEntry.size * layout.members.length := by
  simp [entryBytes, List.length_flatMap, Nat.mul_comm]

end Layout

/-- An exported layout and where the allocator put its four blocks. -/
structure Export where
  layout : Layout
  typeName : Address
  names : Address
  members : Address
  record : Address
  deriving DecidableEq

namespace Export

def metadata (exported : Export) : Metadata :=
  ⟨exported.typeName, exported.names, exported.members, exported.layout.members.length⟩

def blocks (exported : Export) : List (Address × List UInt8) := [
  (exported.typeName, Utf8.bytes exported.layout.typeName ++ [0]),
  (exported.names, exported.layout.names),
  (exported.members, exported.layout.entryBytes exported.names),
  (exported.record, exported.metadata.toBytes)]

end Export

namespace Layout

structure Exportable (layout : Layout) : Prop where
  typeName : (Utf8.bytes layout.typeName).length ≤ greatestLength
  names : layout.names.length ≤ greatestLength

def destination (layout : Layout) (placement : Placement) (memory : Memory) : Export :=
  let text := Utf8.bytes layout.typeName ++ [0]
  let typeName := placement memory text.length
  let named := memory.place typeName text
  let names := placement named layout.names.length
  let filled := named.place names layout.names
  let entries := layout.entryBytes names
  let members := placement filled entries.length
  let listed := filled.place members entries
  ⟨layout, typeName, names, members, placement listed Metadata.size⟩

def Granted (layout : Layout) (placement : Placement) (memory : Memory) : Prop :=
  ∀ block ∈ (layout.destination placement memory).blocks, block.1 ≠ 0

theorem serves_destination {layout : Layout} {placement : Placement} {memory : Memory}
    {sizes : List Nat} (serves : placement.Serves memory (layout.blockSizes ++ sizes)) :
    memory.RoomFor (layout.destination placement memory).blocks ∧
      placement.Serves (memory.placeAll (layout.destination placement memory).blocks) sizes := by
  let exported := layout.destination placement memory
  have first : placement.Serves memory
      ((Utf8.bytes layout.typeName ++ [0]).length :: layout.blockSizes.tail ++ sizes) := by
    rw [List.length_append]
    exact serves
  obtain ⟨roomName, others⟩ := first
  obtain ⟨roomNames, others⟩ := others (Utf8.bytes layout.typeName ++ [0]) rfl
  rw [← layout.length_entryBytes exported.names] at others
  obtain ⟨roomMembers, others⟩ := others layout.names rfl
  obtain ⟨roomRecord, others⟩ := others (layout.entryBytes exported.names) rfl
  have size : exported.metadata.toBytes.length = Metadata.size := Metadata.length_toBytes _
  refine ⟨⟨roomName, roomNames, roomMembers, ?_, trivial⟩, others _ size⟩
  change Memory.Room _ exported.record exported.metadata.toBytes.length
  rw [size]
  exact roomRecord

theorem roomFor_destination {layout : Layout} {placement : Placement} {memory : Memory}
    (serves : placement.Serves memory layout.blockSizes) :
    memory.RoomFor (layout.destination placement memory).blocks := by
  rw [← List.append_nil layout.blockSizes] at serves
  exact (serves_destination serves).1

theorem granted_of_serves {layout : Layout} {placement : Placement} {memory : Memory}
    (serves : placement.Serves memory layout.blockSizes) : layout.Granted placement memory :=
  fun _ member => Nat.ne_of_gt
    ((roomFor_destination serves).inRange (List.mem_map_of_mem member)).1

section Copy

variable {placement : Placement} {state : State} {bytes : List UInt8}

theorem run_copyText (short : bytes.length ≤ greatestLength)
    (granted : placement state.memory (bytes ++ [0]).length ≠ 0) :
    (copyText placement bytes).run state =
      (.ok (placement state.memory (bytes ++ [0]).length), { state with
        memory := state.memory.place (placement state.memory (bytes ++ [0]).length)
          (bytes ++ [0]) }) := by
  have whole : bytes.length + 1 = (bytes ++ [0]).length := by simp
  rw [copyText, Action.run_bind, run_checkedLength short, whole]
  exact run_supply rfl granted

theorem run_copyBytes (short : bytes.length ≤ greatestLength)
    (granted : placement state.memory bytes.length ≠ 0) :
    (copyBytes placement bytes).run state = (.ok (placement state.memory bytes.length), { state with
      memory := state.memory.place (placement state.memory bytes.length) bytes }) := by
  rw [copyBytes, Action.run_bind, run_checkedLength short]
  exact run_supply rfl granted

end Copy

theorem granted_of_neverFails {placement : Placement} (never : placement.NeverFails)
    (layout : Layout) (memory : Memory) : layout.Granted placement memory := by
  simp only [Granted, Export.blocks, List.forall_mem_cons]
  exact ⟨never _ _, never _ _, never _ _, never _ _, by simp⟩

theorem run_toNative_placeAll {layout : Layout} (exportable : layout.Exportable)
    {placement : Placement} {state : State} (granted : layout.Granted placement state.memory) :
    (layout.toNative placement).run state =
      (.ok (layout.destination placement state.memory).record, { state with
        memory := state.memory.placeAll (layout.destination placement state.memory).blocks
        events := state.events ++ [.exported layout.typeName layout.members.length] }) := by
  let exported := layout.destination placement state.memory
  let named := state.memory.place exported.typeName (Utf8.bytes layout.typeName ++ [0])
  let filled := named.place exported.names layout.names
  let listed := filled.place exported.members (layout.entryBytes exported.names)
  simp only [Granted, Export.blocks, List.forall_mem_cons] at granted
  obtain ⟨typeName, names, members, record, _⟩ := granted
  have first : (copyText placement (Utf8.bytes layout.typeName)).run state =
      (.ok exported.typeName, { state with memory := named }) :=
    run_copyText exportable.typeName typeName
  have second : (copyBytes placement layout.names).run { state with memory := named } =
      (.ok exported.names, { state with memory := filled }) :=
    run_copyBytes exportable.names names
  have third : (supply placement (MemberEntry.size * layout.members.length)
      (layout.entryBytes exported.names)).run { state with memory := filled } =
      (.ok exported.members, { state with memory := listed }) := by
    rw [← layout.length_entryBytes exported.names]
    exact run_supply rfl members
  have last : (supply placement Metadata.size (Metadata.toBytes ⟨exported.typeName, exported.names,
      exported.members, layout.members.length⟩)).run { state with memory := listed } =
      (.ok exported.record, { state with
        memory := listed.place exported.record exported.metadata.toBytes }) :=
    run_supply (Metadata.length_toBytes _) record
  simp only [toNative, Action.run_bind, first, second, third, last, Action.run_emit, Action.run_pure]
  rfl

end Layout

end Boundary
