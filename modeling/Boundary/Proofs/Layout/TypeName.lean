import Boundary.Proofs.Layout.Export
import Mathlib.Data.List.TakeWhile

/-!
Type names in native memory. The name is copied with a zero byte behind it, and native code reads it
up to the first zero byte. Main statement: what it reads is the name before its first zero character,
so the whole name exactly if it has none; and no name is refused for one.
-/

namespace Boundary

namespace Text

/-- What a reader that stops at a zero byte sees of a text. -/
def beforeZero (text : String) : String := String.ofList (text.toList.takeWhile (· != '\x00'))

theorem zero_notMem_beforeZero (text : String) : '\x00' ∉ (beforeZero text).toList := by
  rw [beforeZero, String.toList_ofList]
  intro zero
  simpa using List.mem_takeWhile_imp zero

theorem beforeZero_eq_iff {text : String} : beforeZero text = text ↔ '\x00' ∉ text.toList := by
  constructor
  · intro same
    rw [← same]
    exact zero_notMem_beforeZero text
  · intro clean
    rw [beforeZero, List.takeWhile_eq_self_iff.2, String.ofList_toList]
    intro char member
    rw [bne_iff_ne]
    rintro rfl
    exact clean member

end Text

theorem Utf8.exists_encode_append_zero (text : List Char) :
    ∃ rest, encode text ++ [0] = encode (text.takeWhile (· != '\x00')) ++ 0 :: rest := by
  induction text with
  | nil => exact ⟨[], rfl⟩
  | cons char text ih =>
      by_cases zero : char = '\x00'
      · subst zero
        exact ⟨encode text ++ [0], rfl⟩
      · obtain ⟨rest, cut⟩ := ih
        have kept : (char :: text).takeWhile (· != '\x00') =
            char :: text.takeWhile (· != '\x00') :=
          List.takeWhile_cons_of_pos (bne_iff_ne.2 zero)
        refine ⟨rest, ?_⟩
        rw [kept]
        simp only [encode, List.flatMap_cons, List.append_assoc] at cut ⊢
        rw [cut]

namespace HostType

theorem mem_of_afterColons? {path rest : List Char} (found : afterColons? path = some rest)
    {char : Char} (member : char ∈ rest) : char ∈ path := by
  unfold afterColons? at found
  split at found
  · cases found
    exact List.mem_cons_of_mem _ (List.mem_cons_of_mem _ member)
  · cases found

theorem mem_or_mem_of_lastSegment {segment path : List Char} {char : Char}
    (member : char ∈ lastSegment segment path) : char ∈ segment ∨ char ∈ path := by
  induction path generalizing segment with
  | nil => exact .inl member
  | cons next rest ih =>
      rcases ih member with early | late
      · cases after : afterColons? (next :: rest) with
        | none =>
            rw [after, Option.getD_none] at early
            exact .inl early
        | some segment =>
            rw [after, Option.getD_some] at early
            exact .inr (mem_of_afterColons? after early)
      · exact .inr (List.mem_cons_of_mem _ late)

theorem mem_of_mem_shortName {path : String} {char : Char}
    (member : char ∈ (shortName path).toList) : char ∈ path.toList := by
  rw [shortName, String.toList_ofList] at member
  exact (List.takeWhile_sublist _).mem ((mem_or_mem_of_lastSegment member).elim id id)

end HostType

namespace Layout

variable {layout : Layout}

theorem Exported.readTerminated?_typeName {memory : Memory} {address : Address}
    {metadata : Metadata} (exported : layout.Exported memory address metadata) :
    memory.readTerminated? metadata.typeName =
      some (Utf8.bytes (Text.beforeZero layout.typeName)) := by
  obtain ⟨rest, cut⟩ := Utf8.exists_encode_append_zero layout.typeName.toList
  have clean := Utf8.zero_notMem_bytes (Text.zero_notMem_beforeZero layout.typeName)
  have split : (Utf8.bytes layout.typeName ++ [0]).drop 0 =
      Utf8.bytes (Text.beforeZero layout.typeName) ++ 0 :: rest := by
    rw [List.drop_zero, Utf8.bytes, cut, Utf8.bytes, Text.beforeZero, String.toList_ofList]
  exact exported.typeName.readTerminated? split clean

theorem Describes.same_parts {other : Layout} {typeName otherName : String} {platform : Platform}
    {fields : List Field} (described : layout.Describes typeName platform fields)
    (again : other.Describes otherName platform fields) :
    other.names = layout.names ∧ other.members = layout.members := by
  refine ⟨again.names.trans described.names.symm, List.ext_getElem? ?_⟩
  intro index
  rw [again.member, described.member]

theorem exists_build_under {typeName : String} {platform : Platform} {fields : List Field}
    {start : State} (built : ((build typeName fields platform).run start).1 = .ok (.ok layout))
    (otherName : String) :
    ∃ other, ((build otherName fields platform).run start).1 = .ok (.ok other) ∧
      other.typeName = otherName ∧ other.names = layout.names ∧ other.members = layout.members := by
  obtain ⟨few, described⟩ := describes_of_build built
  have mapped := (build_ok_iff few start).1 ⟨layout, built⟩
  obtain ⟨other, again⟩ : ∃ other,
      ((build otherName fields platform).run start).1 = .ok (.ok other) :=
    (build_ok_iff few start).2 mapped
  obtain ⟨_, redescribed⟩ := describes_of_build again
  exact ⟨other, again, redescribed.typeName, described.same_parts redescribed⟩

end Layout

/-- Native code that reads the type name of an exported layout up to a zero byte gets the name before
its first zero character. This is the whole name exactly if it has no zero character, as every name has
that a type without such a character in its path reports by default. Nothing else keeps one out: fields
that are laid out under one name are laid out alike under every other. -/
theorem type_name_read_to_first_zero {typeName : String} {fields : List Field}
    {platform : Platform} {layout : Layout} {start state : State} {placement : Placement}
    (built : ((Layout.build typeName fields platform).run start).1 = .ok (.ok layout))
    (exportable : layout.Exportable)
    (serves : placement.Serves state.memory layout.blockSizes) :
    (∃ address after metadata, (layout.toNative placement).run state = (.ok address, after) ∧
        Metadata.read? after.memory address = some metadata ∧
        layout.typeName = typeName ∧
        after.memory.readTerminated? metadata.typeName =
          some (Utf8.bytes (Text.beforeZero typeName)) ∧
        (after.memory.readTerminated? metadata.typeName = some (Utf8.bytes layout.typeName) ↔
          '\x00' ∉ typeName.toList)) ∧
      (∀ path : String, typeName = HostType.shortName path → '\x00' ∉ path.toList →
        '\x00' ∉ typeName.toList) ∧
      ∀ otherName : String, ∃ other,
        ((Layout.build otherName fields platform).run start).1 = .ok (.ok other) ∧
          other.typeName = otherName ∧ other.names = layout.names ∧
          other.members = layout.members := by
  obtain ⟨few, described⟩ := Layout.describes_of_build built
  refine ⟨?_, ?_, Layout.exists_build_under built⟩
  · obtain ⟨address, memory, metadata, ran, exported⟩ :=
      Layout.run_toNative exportable.typeName exportable.names serves
    have seen := exported.readTerminated?_typeName
    rw [described.typeName] at seen
    refine ⟨address, _, metadata, ran, exported.read? (described.count ▸ few),
      described.typeName, seen, ?_⟩
    rw [seen, described.typeName, Option.some_inj, Utf8.bytes_inj, Text.beforeZero_eq_iff]
  · rintro path rfl clean zero
    exact clean (HostType.mem_of_mem_shortName zero)

namespace Sample

def oneField : List Field := [⟨"Age", .int32, by decide⟩]

theorem exists_layout_oneField {typeName : String} (short : (Utf8.bytes typeName).length ≤ 64) :
    ∃ layout, ((Layout.build typeName oneField .wide).run {}).1 = .ok (.ok layout) ∧
      layout.Exportable ∧ Placement.Serves Memory.bump (State.memory {}) layout.blockSizes := by
  have few : oneField.length ≤ greatestLength := by decide
  obtain ⟨layout, built⟩ : ∃ layout,
      ((Layout.build typeName oneField .wide).run {}).1 = .ok (.ok layout) :=
    Layout.exists_build few (by decide) {}
  obtain ⟨_, described⟩ := Layout.describes_of_build built
  have names : layout.names.length = 4 := by
    rw [described.names]
    decide +kernel
  have members : layout.members.length = 1 := described.count
  refine ⟨layout, built, ⟨?_, ?_⟩, Memory.bump_serves (by simp [Memory.Bounded]) (by decide) ?_⟩
  · rw [described.typeName]
    exact Nat.le_trans short (by decide)
  · rw [names]
    decide
  · have small : (layout.blockSizes.map fun size => (size / 16 + 1) * 16).sum ≤ 1000 := by
      rw [Layout.blockSizes, described.typeName, names, members]
      simp only [List.map_cons, List.map_nil, List.sum_cons, List.sum_nil, MemberEntry.size,
        Metadata.size]
      omega
    exact Nat.le_trans (Nat.add_le_add_left small _) (by decide)

end Sample

theorem type_name_with_arguments_read_whole :
    ∃ layout, ((Layout.build "\u00c4quator<x>::Y" Sample.oneField .wide).run {}).1 =
        .ok (.ok layout) ∧
      ∃ address after metadata, (layout.toNative Memory.bump).run {} = (.ok address, after) ∧
        Metadata.read? after.memory address = some metadata ∧
        after.memory.readTerminated? metadata.typeName = some (Utf8.bytes layout.typeName) := by
  obtain ⟨layout, built, exportable, serves⟩ :=
    Sample.exists_layout_oneField (show (Utf8.bytes "\u00c4quator<x>::Y").length ≤ 64 by
      decide +kernel)
  obtain ⟨⟨address, after, metadata, ran, read, _, _, whole⟩, _, _⟩ :=
    type_name_read_to_first_zero built exportable serves
  exact ⟨layout, built, address, after, metadata, ran, read, whole.2 (by decide +kernel)⟩

/-- A type name with a zero character in it is laid out and exported like any other, but native code
sees only the part before. -/
theorem type_name_with_zero_cut_off :
    ∃ layout, ((Layout.build "Pair\x00Left" Sample.oneField .wide).run {}).1 = .ok (.ok layout) ∧
      Utf8.bytes layout.typeName = [0x50, 0x61, 0x69, 0x72, 0, 0x4c, 0x65, 0x66, 0x74] ∧
      ∃ address after metadata, (layout.toNative Memory.bump).run {} = (.ok address, after) ∧
        Metadata.read? after.memory address = some metadata ∧
        after.memory.readTerminated? metadata.typeName = some [0x50, 0x61, 0x69, 0x72] ∧
        after.memory.readTerminated? metadata.typeName ≠ some (Utf8.bytes layout.typeName) := by
  obtain ⟨layout, built, exportable, serves⟩ :=
    Sample.exists_layout_oneField (show (Utf8.bytes "Pair\x00Left").length ≤ 64 by decide +kernel)
  obtain ⟨few, described⟩ := Layout.describes_of_build built
  obtain ⟨address, memory, metadata, ran, exported⟩ :=
    Layout.run_toNative exportable.typeName exportable.names serves
  have stored : Utf8.bytes layout.typeName = [0x50, 0x61, 0x69, 0x72, 0, 0x4c, 0x65, 0x66, 0x74] := by
    rw [described.typeName]
    decide +kernel
  have seen : memory.readTerminated? metadata.typeName = some [0x50, 0x61, 0x69, 0x72] := by
    rw [exported.readTerminated?_typeName, described.typeName, Option.some_inj]
    decide +kernel
  refine ⟨layout, built, stored, address, _, metadata, ran,
    exported.read? (described.count ▸ few), seen, ?_⟩
  dsimp only
  rw [seen, stored]
  decide

end Boundary
