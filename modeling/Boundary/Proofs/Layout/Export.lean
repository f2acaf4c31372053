import Boundary.Proofs.Layout.Blocks
import Boundary.Proofs.Layout.Build
import Boundary.Proofs.Layout.ExternalName

/-!
Layouts in native memory. Main statement: native code that reads an exported record finds every
member under its name, and the names one after the other.
-/

namespace Boundary

theorem Bytes.toNat_address {address : Nat} (inRange : address < UInt64.size) :
    toNat (littleEndian 8 address) = address :=
  (toNat_littleEndian 8 address).trans (Nat.mod_eq_of_lt inRange)

theorem Bytes.toNat_word {value : Nat} (inRange : value < UInt32.size) :
    toNat (littleEndian 4 value) = value :=
  (toNat_littleEndian 4 value).trans (Nat.mod_eq_of_lt inRange)

namespace MemberEntry

theorem ofBytes_toBytes {entry : MemberEntry} (name : entry.name < UInt64.size)
    (index : entry.index < UInt32.size) : ofBytes entry.toBytes = entry := by
  simp [ofBytes, toBytes, typeOffset, indexOffset, List.drop_append, List.drop_eq_nil_of_le,
    List.take_of_length_le, Bytes.toNat_address name,
    Bytes.toNat_word entry.raw.toUInt32.toNat_lt, Bytes.toNat_word index]

end MemberEntry

namespace Metadata

theorem ofBytes_toBytes {metadata : Metadata} (typeName : metadata.typeName < UInt64.size)
    (names : metadata.names < UInt64.size) (members : metadata.members < UInt64.size)
    (count : metadata.count < UInt32.size) : ofBytes metadata.toBytes = metadata := by
  simp [ofBytes, toBytes, namesOffset, membersOffset, countOffset, List.drop_append,
    List.drop_eq_nil_of_le,
    Bytes.toNat_address typeName, Bytes.toNat_address names, Bytes.toNat_address members,
    Bytes.toNat_word count]

theorem read?_of_holds {memory : Memory} {address : Address} {metadata : Metadata}
    (holds : memory.Holds address metadata.toBytes) :
    read? memory address = some (ofBytes metadata.toBytes) := by
  have whole : memory.read? (address + 0) size =
      some ((metadata.toBytes.drop 0).take size) :=
    holds.read? (by decide) (by simp)
  rw [Nat.add_zero, List.drop_zero, List.take_of_length_le (by simp)] at whole
  rw [read?, whole, Option.map_some]

end Metadata

namespace Layout

/-- A layout as it lies in native memory, under a record at an address. -/
structure Exported (layout : Layout) (memory : Memory) (address : Address) (metadata : Metadata) :
    Prop where
  record : memory.Holds address metadata.toBytes
  typeName : memory.Holds metadata.typeName (Utf8.bytes layout.typeName ++ [0])
  names : memory.Holds metadata.names layout.names
  members : memory.Holds metadata.members (layout.entryBytes metadata.names)
  count : metadata.count = layout.members.length
  typeNameInRange : metadata.typeName < UInt64.size
  namesInRange : metadata.names + max layout.names.length 1 ≤ UInt64.size
  membersInRange : metadata.members < UInt64.size

theorem lt_of_room {address size : Nat} (inRange : address + max size 1 ≤ UInt64.size) :
    address < UInt64.size := by
  omega

theorem run_toNative {layout : Layout} {placement : Placement} {state : State}
    (shortName : (Utf8.bytes layout.typeName).length ≤ greatestLength)
    (shortNames : layout.names.length ≤ greatestLength)
    (serves : placement.Serves state.memory layout.blockSizes) :
    ∃ address memory metadata, (layout.toNative placement).run state =
        (.ok address, { state with
          memory := memory
          events := state.events ++ [.exported layout.typeName layout.members.length] }) ∧
      layout.Exported memory address metadata := by
  let exported := layout.destination placement state.memory
  have room : state.memory.RoomFor exported.blocks := roomFor_destination serves
  have holds (block : Address × List UInt8) (member : block ∈ exported.blocks) :
      (state.memory.placeAll exported.blocks).Holds block.1 block.2 := room.holds member
  obtain ⟨roomName, roomNames, roomMembers, _⟩ := room
  refine ⟨exported.record, _, exported.metadata,
    run_toNative_placeAll ⟨shortName, shortNames⟩ (granted_of_serves serves), ?_⟩
  exact {
    record := holds (exported.record, exported.metadata.toBytes) (by simp [Export.blocks])
    typeName := holds (exported.typeName, Utf8.bytes layout.typeName ++ [0]) (by
      simp [Export.blocks, exported, destination])
    names := holds (exported.names, layout.names) (by
      simp [Export.blocks, exported, destination])
    members := holds (exported.members, layout.entryBytes exported.names) (by
      simp [Export.blocks, exported, destination])
    count := rfl
    typeNameInRange := lt_of_room roomName.inRange
    namesInRange := roomNames.inRange
    membersInRange := lt_of_room roomMembers.inRange }

theorem drop_entryBytes {layout : Layout} {index : Nat} {member : Member}
    (there : layout.members[index]? = some member) (names : Address) :
    ∃ rest, (layout.entryBytes names).drop (MemberEntry.size * index) =
      MemberEntry.toBytes ⟨names + member.offset, member.tag.ordinal, member.index⟩ ++ rest := by
  obtain ⟨inside, rfl⟩ := List.getElem?_eq_some_iff.1 there
  let part : Member → List UInt8 := fun member =>
    MemberEntry.toBytes ⟨names + member.offset, member.tag.ordinal, member.index⟩
  have before : ((layout.members.take index).flatMap part).length = MemberEntry.size * index := by
    simp [part, List.length_flatMap, Nat.min_eq_left (Nat.le_of_lt inside), Nat.mul_comm]
  refine ⟨(layout.members.drop (index + 1)).flatMap part, ?_⟩
  change (layout.members.flatMap part).drop (MemberEntry.size * index) = _
  rw [← before, drop_length_flatMap, List.drop_eq_getElem_cons inside, List.flatMap_cons]

namespace Exported

variable {layout : Layout} {memory : Memory} {address : Address} {metadata : Metadata}

theorem read? (exported : layout.Exported memory address metadata)
    (few : layout.members.length ≤ greatestLength) :
    Metadata.read? memory address = some metadata := by
  have count : metadata.count < UInt32.size := by
    rw [exported.count]
    exact Nat.lt_of_le_of_lt few (by decide)
  rw [Metadata.read?_of_holds exported.record, Metadata.ofBytes_toBytes exported.typeNameInRange
    (lt_of_room exported.namesInRange) exported.membersInRange count]

theorem entry? (exported : layout.Exported memory address metadata) {index : Nat} {member : Member}
    (there : layout.members[index]? = some member)
    (name : metadata.names + member.offset < UInt64.size) (position : member.index < UInt32.size) :
    metadata.entry? memory index =
      some ⟨metadata.names + member.offset, member.tag.ordinal, member.index⟩ := by
  obtain ⟨rest, here⟩ := drop_entryBytes there metadata.names
  have inside : MemberEntry.size * index + MemberEntry.size ≤
      (layout.entryBytes metadata.names).length := by
    obtain ⟨among, _⟩ := List.getElem?_eq_some_iff.1 there
    rw [length_entryBytes, ← Nat.mul_succ]
    exact Nat.mul_le_mul_left _ among
  rw [Metadata.entry?, exported.members.read? (by decide) inside, here,
    List.take_left' (MemberEntry.length_toBytes _), Option.map_some,
    MemberEntry.ofBytes_toBytes name position]

theorem entry_of_field {typeName : String} {platform : Platform} {fields : List Field}
    {field : Field} {index : Nat} (exported : layout.Exported memory address metadata)
    (described : layout.Describes typeName platform fields) (few : fields.length ≤ greatestLength)
    (found : fields[index]? = some field) :
    ∃ entry tag, metadata.entry? memory index = some entry ∧ entry.index = index ∧
      field.type.tag? platform = some tag ∧ entry.raw = tag.ordinal ∧
      metadata.names ≤ entry.name ∧
      entry.name + (Utf8.bytes (Field.externalName field.name)).length <
        metadata.names + layout.names.length ∧
      memory.readTerminated? entry.name = some (Utf8.bytes (Field.externalName field.name)) := by
  have among : index < fields.length := (List.getElem?_eq_some_iff.1 found).1
  obtain ⟨member, there⟩ := described.exists_member found
  obtain ⟨tagged, position, _, offset⟩ := described.member_of_field found there
  have here := Field.drop_offset_of_field found
  have bound := Field.offset_lt_of_field found
  rw [← described.names, ← offset] at here bound
  have inside : member.offset < max layout.names.length 1 := by omega
  have room : metadata.names + member.offset < UInt64.size :=
    Nat.lt_of_lt_of_le (Nat.add_lt_add_left inside _) exported.namesInRange
  have small : member.index < UInt32.size := by
    rw [position]
    exact Nat.lt_trans (Nat.lt_of_lt_of_le among few) (by decide)
  refine ⟨_, _, exported.entry? there room small, position, tagged, rfl, Nat.le_add_right _ _, ?_,
    exported.names.readTerminated? here field.zero_notMem_bytes⟩
  rw [Nat.add_assoc]
  exact Nat.add_lt_add_left bound _

end Exported

end Layout

theorem Field.splitOn_stored (fields : List Field) :
    (fields.flatMap stored).splitOn 0 =
      (fields.map fun field => Utf8.bytes (externalName field.name)) ++ [[]] := by
  induction fields with
  | nil => rfl
  | cons field rest ih =>
      rw [List.flatMap_cons, stored, List.append_assoc, List.singleton_append,
        List.splitOn_append_cons_self_of_not_mem field.zero_notMem_bytes, ih]
      rfl

/-- A layout that was built is exported whole wherever an allocator finds room for its blocks. The
record counts the fields, and its entries have, in order, their indices, the ordinals of their tags
and their external names, each of which ends at a zero byte inside the block of names. That block
is nothing but these names, and the block of the type name is that name with a zero byte. -/
theorem exported_metadata_reads_back {typeName : String} {fields : List Field}
    {platform : Platform} {layout : Layout} {start state : State} {placement : Placement}
    (built : ((Layout.build typeName fields platform).run start).1 = .ok (.ok layout))
    (shortName : (Utf8.bytes layout.typeName).length ≤ greatestLength)
    (shortNames : layout.names.length ≤ greatestLength)
    (serves : placement.Serves state.memory layout.blockSizes) :
    ∃ address after metadata arena,
      (layout.toNative placement).run state = (.ok address, after) ∧
      Metadata.read? after.memory address = some metadata ∧
      metadata.count = fields.length ∧ fields.length ≤ greatestLength ∧
      after.memory.blocks[metadata.names]? = some arena ∧
      (∀ index field, fields[index]? = some field → ∃ entry tag,
        metadata.entry? after.memory index = some entry ∧ entry.index = index ∧
        field.type.tag? platform = some tag ∧ entry.raw = tag.ordinal ∧
        metadata.names ≤ entry.name ∧
        entry.name + (Utf8.bytes (Field.externalName field.name)).length <
          metadata.names + arena.length ∧
        after.memory.readTerminated? entry.name =
          some (Utf8.bytes (Field.externalName field.name))) ∧
      arena.splitOn 0 =
        (fields.map fun field => Utf8.bytes (Field.externalName field.name)) ++ [[]] ∧
      after.memory.blocks[metadata.typeName]? = some (Utf8.bytes typeName ++ [0]) := by
  obtain ⟨few, described⟩ := Layout.describes_of_build built
  obtain ⟨address, memory, metadata, ran, exported⟩ :=
    Layout.run_toNative shortName shortNames serves
  refine ⟨address, _, metadata, layout.names, ran, exported.read? (described.count ▸ few),
    exported.count.trans described.count, few, exported.names.block, ?_, ?_, ?_⟩
  · intro index field found
    exact exported.entry_of_field described few found
  · rw [described.names]
    exact Field.splitOn_stored fields
  · rw [← described.typeName]
    exact exported.typeName.block

theorem exported_folded_names_read_back :
    ∃ layout, ((Layout.build "Sample" Sample.fields .wide).run {}).1 = .ok (.ok layout) ∧
      layout.blockSizes = [7, 23, 80, 32] ∧
      Placement.Serves Memory.bump (State.memory {}) layout.blockSizes ∧
      ∃ address after metadata entry, (layout.toNative Memory.bump).run {} = (.ok address, after) ∧
        Metadata.read? after.memory address = some metadata ∧ metadata.count = 5 ∧
        metadata.entry? after.memory 1 = some entry ∧ entry.raw = Tag.int64.ordinal ∧
        after.memory.readTerminated? entry.name = some (Utf8.bytes "kelvin") ∧
        after.memory.blocks[metadata.typeName]? = some (Utf8.bytes "Sample" ++ [0]) := by
  have mapped : ∀ field ∈ Sample.fields, ∃ tag, field.type.tag? .wide = some tag := by
    simp only [← Option.isSome_iff_exists]
    decide
  obtain ⟨layout, described, ran⟩ := Layout.run_build_of_mapped (by decide) mapped {}
  have built : ((Layout.build "Sample" Sample.fields .wide).run {}).1 = .ok (.ok layout) := by
    rw [ran]
  have name : (Utf8.bytes layout.typeName).length = 6 := by
    rw [described.typeName]
    decide +kernel
  have names : layout.names.length = 23 := by
    rw [described.names]
    decide +kernel
  have count : layout.members.length = 5 := described.count
  have sizes : layout.blockSizes = [7, 23, 80, 32] := by
    rw [Layout.blockSizes, name, names, count]
    rfl
  have serves : Placement.Serves Memory.bump (State.memory {}) layout.blockSizes := by
    rw [sizes]
    exact Memory.bump_serves (by simp [Memory.Bounded]) (by decide) (by decide)
  obtain ⟨address, after, metadata, _, exported, read, counted, _, _, entries, _, typeName⟩ :=
    exported_metadata_reads_back built (by rw [name]; decide) (by rw [names]; decide) serves
  obtain ⟨entry, tag, found, _, tagged, raw, _, _, text⟩ := entries 1 _ rfl
  have folded : Field.externalName "\u212aelvin" = "kelvin" := by decide +kernel
  have same : some Tag.int64 = some tag := tagged
  cases same
  rw [folded] at text
  exact ⟨layout, built, sizes, serves, address, after, metadata, entry, exported, read, counted,
    found, raw, text, typeName⟩

end Boundary
