import Boundary.Proofs.Layout.Build
import Boundary.Proofs.Layout.ExternalName

/-!
Looking up the members of a layout by name. Main statements: a look-up ends at the first member whose
external name has exactly the bytes looked for, and finds nothing if there is none; so a member is
found under its own name unless an earlier field has the same external name.
-/

namespace Boundary

namespace Field

def UnusedBefore (fields : List Field) (index : Nat) (name : String) : Prop :=
  ∀ (earlier : Nat) (other : Field), earlier < index → fields[earlier]? = some other →
    externalName other.name ≠ name

theorem unusedBefore_zero (fields : List Field) (name : String) : UnusedBefore fields 0 name := by
  intro earlier _ isEarlier
  exact absurd isEarlier (Nat.not_lt_zero _)

theorem nodup_externalNames_iff {fields : List Field} :
    (fields.map fun field => externalName field.name).Nodup ↔
      ∀ (index : Nat) (field : Field), fields[index]? = some field →
        UnusedBefore fields index (externalName field.name) := by
  rw [List.nodup_iff_pairwise_ne, List.pairwise_map, List.pairwise_iff_getElem]
  constructor
  · intro distinct index field found earlier other isEarlier otherFound
    obtain ⟨inside, rfl⟩ := List.getElem?_eq_some_iff.1 found
    obtain ⟨otherInside, rfl⟩ := List.getElem?_eq_some_iff.1 otherFound
    exact distinct earlier index otherInside inside isEarlier
  · intro unused earlier index otherInside inside isEarlier
    exact unused index _ (List.getElem?_eq_getElem inside) earlier _ isEarlier
      (List.getElem?_eq_getElem otherInside)

theorem heads_of_fold_eq {left right : List Char} (different : left ≠ right)
    (same : fold left = fold right) :
    ∃ first rest second others, left = first :: rest ∧ right = second :: others ∧
      first ≠ second := by
  cases left with
  | nil =>
      cases right with
      | nil => exact absurd rfl different
      | cons second others =>
          have none := (List.append_eq_nil_iff.1 same.symm).1
          exact absurd none (Text.lowerChar_ne_nil second)
  | cons first rest =>
      cases right with
      | nil =>
          have none := (List.append_eq_nil_iff.1 same).1
          exact absurd none (Text.lowerChar_ne_nil first)
      | cons second others =>
          refine ⟨first, rest, second, others, rfl, rfl, ?_⟩
          rintro rfl
          rw [fold, fold, List.append_cancel_left_eq] at same
          exact different (by rw [same])

end Field

namespace Layout.Describes

variable {layout : Layout} {typeName : String} {platform : Platform} {fields : List Field}
  {field : Field} {member : Member} {index : Nat}

theorem member?_eq_some_iff (described : layout.Describes typeName platform fields)
    (name : String) :
    layout.member? name = some member ↔
      ∃ (index : Nat) (field : Field), fields[index]? = some field ∧
        layout.members[index]? = some member ∧ Field.externalName field.name = name ∧
        Field.UnusedBefore fields index name := by
  rw [member?, List.find?_eq_some_iff_getElem]
  constructor
  · rintro ⟨named, index, inside, rfl, before⟩
    have there := List.getElem?_eq_getElem inside
    obtain ⟨field, found⟩ := described.exists_field there
    rw [described.memberName_eq found there] at named
    refine ⟨index, field, found, there, eq_of_beq named, ?_⟩
    intro earlier other isEarlier otherFound sameName
    have otherThere := List.getElem?_eq_getElem (Nat.lt_trans isEarlier inside)
    have otherName := before earlier isEarlier
    rw [described.memberName_eq otherFound otherThere, sameName] at otherName
    simp at otherName
  · rintro ⟨index, field, found, there, rfl, unused⟩
    obtain ⟨inside, same⟩ := List.getElem?_eq_some_iff.1 there
    refine ⟨beq_of_eq (described.memberName_eq found there), index, inside, same, ?_⟩
    intro earlier isEarlier
    have otherThere := List.getElem?_eq_getElem (Nat.lt_trans isEarlier inside)
    obtain ⟨other, otherFound⟩ := described.exists_field otherThere
    rw [described.memberName_eq otherFound otherThere]
    simpa using unused earlier other isEarlier otherFound

theorem member?_eq_none_iff (described : layout.Describes typeName platform fields) (name : String) :
    layout.member? name = none ↔ ∀ field ∈ fields, Field.externalName field.name ≠ name := by
  rw [member?, List.find?_eq_none]
  constructor
  · intro missed field among named
    obtain ⟨index, found⟩ := List.mem_iff_getElem?.1 among
    obtain ⟨member, there⟩ := described.exists_member found
    apply missed member (List.mem_of_getElem? there)
    rw [described.memberName_eq found there, named]
    exact beq_self_eq_true name
  · intro unnamed member among named
    obtain ⟨index, there⟩ := List.mem_iff_getElem?.1 among
    obtain ⟨field, found⟩ := described.exists_field there
    rw [described.memberName_eq found there] at named
    exact unnamed field (List.mem_of_getElem? found) (eq_of_beq named)

theorem zero_behind (described : layout.Describes typeName platform fields)
    (found : fields[index]? = some field) :
    layout.names[Field.offset fields index + (Utf8.bytes (Field.externalName field.name)).length]? =
      some 0 := by
  rw [described.names, ← List.getElem?_drop, Field.drop_offset_of_field found,
    List.getElem?_append_right (Nat.le_refl _), Nat.sub_self]
  rfl

/-- The name of a member is a whole entry of the names: it has a zero byte behind it, and it starts the
names or has one in front. -/
theorem whole_entry (described : layout.Describes typeName platform fields)
    (found : fields[index]? = some field) (there : layout.members[index]? = some member) :
    (layout.names.drop member.offset).take member.length =
        Utf8.bytes (Field.externalName field.name) ∧
      layout.names[member.offset + member.length]? = some 0 ∧
      (member.offset = 0 ∨ layout.names[member.offset - 1]? = some 0) := by
  obtain ⟨_, _, length, offset⟩ := described.member_of_field found there
  rw [length, offset]
  refine ⟨?_, described.zero_behind found, ?_⟩
  · rw [described.names, Field.drop_offset_of_field found, List.take_left]
  · cases index with
    | zero => exact .inl rfl
    | succ index =>
        obtain ⟨inside, _⟩ := List.getElem?_eq_some_iff.1 found
        have before := List.getElem?_eq_getElem (Nat.lt_of_succ_lt inside)
        right
        rw [Field.offset_succ before, Field.length_stored, ← Nat.add_assoc, Nat.add_sub_cancel]
        exact described.zero_behind before

theorem member?_own_iff (described : layout.Describes typeName platform fields)
    (found : fields[index]? = some field) (there : layout.members[index]? = some member) :
    layout.member? (layout.memberName member) = some member ↔
      Field.UnusedBefore fields index (Field.externalName field.name) := by
  rw [described.member?_eq_some_iff, described.memberName_eq found there]
  constructor
  · rintro ⟨first, other, otherFound, otherThere, _, unused⟩
    obtain ⟨_, own, _, _⟩ := described.member_of_field found there
    obtain ⟨_, position, _, _⟩ := described.member_of_field otherFound otherThere
    rw [← own, position]
    exact unused
  · intro unused
    exact ⟨index, field, found, there, rfl, unused⟩

theorem members_own_iff (described : layout.Describes typeName platform fields) :
    (∀ member ∈ layout.members, layout.member? (layout.memberName member) = some member) ↔
      (fields.map fun field => Field.externalName field.name).Nodup := by
  rw [Field.nodup_externalNames_iff]
  constructor
  · intro own index field found
    obtain ⟨member, there⟩ := described.exists_member found
    exact (described.member?_own_iff found there).1 (own member (List.mem_of_getElem? there))
  · intro unused member among
    obtain ⟨index, there⟩ := List.mem_iff_getElem?.1 among
    obtain ⟨field, found⟩ := described.exists_field there
    exact (described.member?_own_iff found there).2 (unused index field found)

theorem exists_first (described : layout.Describes typeName platform fields)
    (among : member ∈ layout.members) :
    ∃ first ∈ layout.members, layout.member? (layout.memberName member) = some first ∧
      layout.memberName first = layout.memberName member ∧
      ∀ other ∈ layout.members, layout.memberName other = layout.memberName member →
        first.index ≤ other.index := by
  have findable : (layout.member? (layout.memberName member)).isSome = true := by
    rw [member?, List.find?_isSome]
    exact ⟨member, among, beq_self_eq_true _⟩
  obtain ⟨first, answered⟩ := Option.isSome_iff_exists.1 findable
  obtain ⟨index, field, found, there, named, unused⟩ :=
    (described.member?_eq_some_iff _).1 answered
  refine ⟨first, List.mem_of_getElem? there, answered, ?_, ?_⟩
  · rw [described.memberName_eq found there, named]
  · intro other otherAmong sameName
    obtain ⟨place, otherThere⟩ := List.mem_iff_getElem?.1 otherAmong
    obtain ⟨otherField, otherFound⟩ := described.exists_field otherThere
    obtain ⟨_, firstPlace, _, _⟩ := described.member_of_field found there
    obtain ⟨_, otherPlace, _, _⟩ := described.member_of_field otherFound otherThere
    rw [described.memberName_eq otherFound otherThere] at sameName
    rw [firstPlace, otherPlace]
    by_contra before
    exact unused place otherField (Nat.lt_of_not_le before) otherFound sameName

end Layout.Describes

/-- A look-up in a built layout finds the first member, in declaration order, whose external name has
the bytes of the name looked for, and it finds nothing exactly if no field has such an external name.
The bytes of what is found are a whole entry of the names, from one zero byte to the next, and a name
with a zero character in it is never found. -/
theorem members_found_by_exact_name {typeName : String} {platform : Platform}
    {fields : List Field} {state : State} {layout : Layout}
    (built : ((Layout.build typeName fields platform).run state).1 = .ok (.ok layout)) :
    (∀ name member, layout.member? name = some member ↔
        ∃ (index : Nat) (field : Field), fields[index]? = some field ∧
          layout.members[index]? = some member ∧
          Utf8.bytes (Field.externalName field.name) = Utf8.bytes name ∧
          ∀ (earlier : Nat) (other : Field), earlier < index → fields[earlier]? = some other →
            Utf8.bytes (Field.externalName other.name) ≠ Utf8.bytes name) ∧
      (∀ name, layout.member? name = none ↔
        ∀ field ∈ fields, Utf8.bytes (Field.externalName field.name) ≠ Utf8.bytes name) ∧
      (∀ name member, layout.member? name = some member →
        (layout.names.drop member.offset).take member.length = Utf8.bytes name ∧
          layout.names[member.offset + member.length]? = some 0 ∧
          (member.offset = 0 ∨ layout.names[member.offset - 1]? = some 0)) ∧
      ∀ name : String, '\x00' ∈ name.toList → layout.member? name = none := by
  obtain ⟨_, described⟩ := Layout.describes_of_build built
  refine ⟨?_, ?_, ?_, ?_⟩
  · intro name member
    simp only [Utf8.bytes_inj, ne_eq]
    exact described.member?_eq_some_iff name
  · intro name
    simp only [Utf8.bytes_inj, ne_eq]
    exact described.member?_eq_none_iff name
  · intro name member answered
    obtain ⟨index, field, found, there, rfl, _⟩ := (described.member?_eq_some_iff name).1 answered
    exact described.whole_entry found there
  · intro name zero
    rw [described.member?_eq_none_iff]
    rintro field _ rfl
    exact Field.zero_notMem_externalName field.nulFree zero

namespace Sample

def neighbours : List Field := [⟨"Foo", .int32, by decide⟩, ⟨"Baz", .text, by decide⟩]

theorem exists_layout_neighbours :
    ∃ layout, ((Layout.build "Pair" neighbours .wide).run {}).1 = .ok (.ok layout) :=
  Layout.exists_build (by decide) (by decide) {}

end Sample

theorem parts_of_names_not_found :
    ∃ layout, ((Layout.build "Pair" Sample.neighbours .wide).run {}).1 = .ok (.ok layout) ∧
      layout.member? "baz" = layout.members[1]? ∧ layout.member? "fo" = none ∧
      layout.member? "az" = none ∧ layout.member? "foobaz" = none ∧
      layout.member? "foo\x00baz" = none := by
  obtain ⟨layout, built⟩ := Sample.exists_layout_neighbours
  obtain ⟨exactly, missing, _, zero⟩ := members_found_by_exact_name built
  obtain ⟨_, described⟩ := Layout.describes_of_build built
  have found : Sample.neighbours[1]? = some ⟨"Baz", .text, by decide⟩ := rfl
  obtain ⟨second, there⟩ := described.exists_member found
  refine ⟨layout, built, ?_, (missing _).2 (by decide +kernel), (missing _).2 (by decide +kernel),
    (missing _).2 (by decide +kernel), zero _ (by decide)⟩
  rw [there, exactly]
  refine ⟨1, _, found, there, by decide +kernel, ?_⟩
  intro earlier other before foundEarlier
  obtain rfl : earlier = 0 := by omega
  obtain rfl := Option.some.inj foundEarlier
  decide +kernel

/-- The name of any member of a built layout leads to the first member of that name. It leads to the
member itself exactly if no earlier field has the same external name, and it does so for all members
exactly if the external names are pairwise distinct. Different source names give the same external
name only if they start with different characters. -/
theorem own_name_leads_to_first_member {typeName : String} {platform : Platform}
    {fields : List Field} {state : State} {layout : Layout}
    (built : ((Layout.build typeName fields platform).run state).1 = .ok (.ok layout)) :
    (∀ member ∈ layout.members, ∃ first ∈ layout.members,
        layout.member? (layout.memberName member) = some first ∧
        layout.memberName first = layout.memberName member ∧
        ∀ other ∈ layout.members, layout.memberName other = layout.memberName member →
          first.index ≤ other.index) ∧
      (∀ (index : Nat) (field : Field) (member : Member), fields[index]? = some field →
        layout.members[index]? = some member →
        (layout.member? (layout.memberName member) = some member ↔
          ∀ (earlier : Nat) (other : Field), earlier < index → fields[earlier]? = some other →
            Field.externalName other.name ≠ Field.externalName field.name)) ∧
      ((∀ member ∈ layout.members, layout.member? (layout.memberName member) = some member) ↔
        (fields.map fun field => Field.externalName field.name).Nodup) ∧
      ∀ left ∈ fields, ∀ right ∈ fields, left.name ≠ right.name →
        Field.externalName left.name = Field.externalName right.name →
        ∃ first rest second others, left.name.toList = first :: rest ∧
          right.name.toList = second :: others ∧ first ≠ second := by
  obtain ⟨_, described⟩ := Layout.describes_of_build built
  refine ⟨fun member among => described.exists_first among, ?_, described.members_own_iff, ?_⟩
  · intro index field member found there
    exact described.member?_own_iff found there
  · intro left _ right _ different same
    have distinct : left.name.toList ≠ right.name.toList :=
      fun equal => different (String.toList_injective equal)
    exact Field.heads_of_fold_eq distinct (String.ofList_injective same)

namespace Sample

def twins : List Field := [⟨"Foo", .int32, by decide⟩, ⟨"foo", .int32, by decide⟩]

theorem exists_layout_twins :
    ∃ layout, ((Layout.build "Twins" twins .wide).run {}).1 = .ok (.ok layout) :=
  Layout.exists_build (by decide) (by decide) {}

end Sample

theorem own_name_leads_to_first_twin :
    ∃ layout, ((Layout.build "Twins" Sample.twins .wide).run {}).1 = .ok (.ok layout) ∧
      ∀ member, layout.members[0]? = some member →
        layout.member? (layout.memberName member) = some member := by
  obtain ⟨layout, built⟩ := Sample.exists_layout_twins
  obtain ⟨_, own, _, _⟩ := own_name_leads_to_first_member built
  refine ⟨layout, built, ?_⟩
  intro member there
  exact (own 0 _ member rfl there).2 (Field.unusedBefore_zero _ _)

/-- Different source names, one external name: the look-up never gets to the second field. -/
theorem second_twin_not_found :
    (Sample.twins.map Field.name).Nodup ∧
      ∃ layout first second,
        ((Layout.build "Twins" Sample.twins .wide).run {}).1 = .ok (.ok layout) ∧
        layout.members[0]? = some first ∧ layout.members[1]? = some second ∧
        layout.memberName first = "foo" ∧ layout.memberName second = "foo" ∧
        layout.member? "foo" = some first ∧ first ≠ second := by
  obtain ⟨layout, built⟩ := Sample.exists_layout_twins
  obtain ⟨_, described⟩ := Layout.describes_of_build built
  have firstFound : Sample.twins[0]? = some ⟨"Foo", .int32, by decide⟩ := rfl
  have secondFound : Sample.twins[1]? = some ⟨"foo", .int32, by decide⟩ := rfl
  obtain ⟨first, firstThere⟩ := described.exists_member firstFound
  obtain ⟨second, secondThere⟩ := described.exists_member secondFound
  have firstName : Field.externalName "Foo" = "foo" := by decide +kernel
  have secondName : Field.externalName "foo" = "foo" := by decide +kernel
  have answered : layout.member? "foo" = some first :=
    (described.member?_eq_some_iff "foo").2
      ⟨0, _, firstFound, firstThere, firstName, Field.unusedBefore_zero _ _⟩
  refine ⟨by decide, layout, first, second, built, firstThere, secondThere, ?_, ?_, answered, ?_⟩
  · rw [described.memberName_eq firstFound firstThere, firstName]
  · rw [described.memberName_eq secondFound secondThere, secondName]
  · rintro rfl
    obtain ⟨_, zero, _, _⟩ := described.member_of_field firstFound firstThere
    obtain ⟨_, one, _, _⟩ := described.member_of_field secondFound secondThere
    omega

end Boundary
