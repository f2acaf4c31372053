import Boundary.Layout
import Boundary.Proofs.Text.Utf8
import Mathlib.Algebra.BigOperators.Group.List.Basic
import Mathlib.Algebra.GroupWithZero.Nat

/-!
Which layout the fields of a composite get. Main statement: fields that all have tags are laid out
in declaration order, each under its external name, and the building of a layout never halts.
-/

namespace Boundary

theorem drop_length_flatMap {first second : Type} (part : first → List second) (items : List first)
    (index : Nat) :
    (items.flatMap part).drop ((items.take index).flatMap part).length =
      (items.drop index).flatMap part := by
  have whole : items.flatMap part =
      (items.take index).flatMap part ++ (items.drop index).flatMap part := by
    rw [← List.flatMap_append, List.take_append_drop]
  rw [whole, List.drop_left]

theorem tagOfType_ok_iff {type : HostType} {platform : Platform} {state : State} {tag : Tag} :
    ((tagOfType type platform).run state).1 = .ok (.ok tag) ↔ type.tag? platform = some tag := by
  cases mapped : type.tag? platform <;> simp [tagOfType, mapped]

namespace Field

def stored (field : Field) : List UInt8 := Utf8.bytes (externalName field.name) ++ [0]

def offset (fields : List Field) (index : Nat) : Nat :=
  ((fields.take index).map fun field => field.stored.length).sum

def member? (platform : Platform) (fields : List Field) (index : Nat) : Option Member :=
  fields[index]?.bind fun field => (field.type.tag? platform).map fun tag =>
    ⟨offset fields index, (Utf8.bytes (externalName field.name)).length, tag, index⟩

def unmapped (platform : Platform) (fields : List Field) : List UnmappedField :=
  (fields.filter fun field => (field.type.tag? platform).isNone).map fun field =>
    ⟨field.name, field.type.name⟩

variable {platform : Platform} {fields earlier later : List Field} {field : Field} {index : Nat}
  {tag : Tag}

theorem length_stored (field : Field) :
    field.stored.length = (Utf8.bytes (externalName field.name)).length + 1 := by
  simp [stored]

theorem plannedSize_eq (fields : List Field) :
    Layout.plannedSize fields = (fields.flatMap stored).length := by
  induction fields with
  | nil => rfl
  | cons field rest ih =>
      rw [List.flatMap_cons, List.length_append, length_stored, ← ih]
      rfl

theorem unmapped_append (earlier later : List Field) :
    unmapped platform (earlier ++ later) = unmapped platform earlier ++ unmapped platform later := by
  simp [unmapped]

theorem unmapped_eq_nil_iff : unmapped platform fields = [] ↔
    ∀ field ∈ fields, ∃ tag, field.type.tag? platform = some tag := by
  simp [unmapped, Option.ne_none_iff_exists']

theorem offset_append_of_le (inside : index ≤ earlier.length) :
    offset (earlier ++ later) index = offset earlier index := by
  rw [offset, List.take_append_of_le_length inside, offset]

theorem offset_length (fields : List Field) :
    offset fields fields.length = (fields.flatMap stored).length := by
  rw [offset, List.take_length, List.length_flatMap]

theorem member?_append_of_lt (inside : index < earlier.length) :
    member? platform (earlier ++ later) index = member? platform earlier index := by
  rw [member?, List.getElem?_append_left inside, offset_append_of_le (Nat.le_of_lt inside), member?]

theorem member?_of_field (found : fields[index]? = some field)
    (tagged : field.type.tag? platform = some tag) :
    member? platform fields index =
      some ⟨offset fields index, (Utf8.bytes (externalName field.name)).length, tag, index⟩ := by
  rw [member?, found, Option.bind_some, tagged, Option.map_some]

theorem member?_of_le (outside : fields.length ≤ index) : member? platform fields index = none := by
  rw [member?, List.getElem?_eq_none outside, Option.bind_none]

theorem drop_offset (fields : List Field) (index : Nat) :
    (fields.flatMap stored).drop (offset fields index) = (fields.drop index).flatMap stored := by
  rw [offset, ← List.length_flatMap, drop_length_flatMap]

theorem drop_offset_of_field (found : fields[index]? = some field) :
    (fields.flatMap stored).drop (offset fields index) =
      Utf8.bytes (externalName field.name) ++ 0 :: (fields.drop (index + 1)).flatMap stored := by
  obtain ⟨inside, rfl⟩ := List.getElem?_eq_some_iff.1 found
  rw [drop_offset, List.drop_eq_getElem_cons inside, List.flatMap_cons, stored, List.append_assoc,
    List.singleton_append]

theorem offset_succ (found : fields[index]? = some field) :
    offset fields (index + 1) = offset fields index + field.stored.length := by
  rw [offset, List.take_add_one, found, List.map_append, List.sum_append, offset]
  simp

theorem offset_lt_of_field (found : fields[index]? = some field) :
    offset fields index + (Utf8.bytes (externalName field.name)).length <
      (fields.flatMap stored).length := by
  have rest := congrArg List.length (drop_offset_of_field found)
  rw [List.length_drop, List.length_append, List.length_cons] at rest
  omega

end Field

namespace Layout

structure Draft.Describes (platform : Platform) (fields : List Field) (draft : Draft) : Prop where
  unmapped : draft.unmapped = Field.unmapped platform fields
  names : draft.unmapped = [] → draft.names = fields.flatMap Field.stored
  count : draft.unmapped = [] → draft.members.length = fields.length
  member : draft.unmapped = [] → ∀ index,
    draft.members[index]? = Field.member? platform fields index

def complaints (owner : String) (platform : Platform) (fields : List Field) : List Event :=
  (Field.unmapped platform fields).map fun field =>
    .unmappedField owner field.field field.typeName

section Draft

variable {platform : Platform} {draft : Draft} {earlier : List Field}

theorem complaints_append (owner : String) (earlier later : List Field) :
    complaints owner platform (earlier ++ later) =
      complaints owner platform earlier ++ complaints owner platform later := by
  rw [complaints, Field.unmapped_append, List.map_append, complaints, complaints]

theorem Draft.Describes.start (platform : Platform) : Draft.Describes platform [] {} where
  unmapped := rfl
  names _ := rfl
  count _ := rfl
  member _ _ := rfl

theorem Draft.Describes.mapped {field : Field} {tag : Tag}
    (described : draft.Describes platform earlier) (tagged : field.type.tag? platform = some tag) :
    Draft.Describes platform (earlier ++ [field]) { draft with
      names := draft.names ++ field.stored
      members := draft.members ++ [⟨draft.names.length,
        (Utf8.bytes (Field.externalName field.name)).length, tag, earlier.length⟩] } where
  unmapped := by
    rw [Field.unmapped_append, described.unmapped]
    simp [Field.unmapped, tagged]
  names complete := by
    rw [described.names complete, List.flatMap_append, List.flatMap_singleton]
  count complete := by
    rw [List.length_append, described.count complete, List.length_append]
    rfl
  member complete index := by
    have count := described.count complete
    -- The members before keep their places; the new one starts where the names ended so far.
    rcases Nat.lt_trichotomy index earlier.length with inside | rfl | outside
    · rw [List.getElem?_append_left (by omega), described.member complete,
        Field.member?_append_of_lt inside]
    · have last : (earlier ++ [field])[earlier.length]? = some field := by simp
      have start : Field.offset (earlier ++ [field]) earlier.length = draft.names.length := by
        rw [Field.offset_append_of_le (Nat.le_refl _), Field.offset_length,
          described.names complete]
      rw [Field.member?_of_field last tagged, start, ← count, List.getElem?_concat_length]
    · have beyond : (earlier ++ [field]).length ≤ index := by
        rw [List.length_append]
        exact outside
      rw [Field.member?_of_le beyond]
      apply List.getElem?_eq_none
      rw [List.length_append, count]
      exact outside

theorem Draft.Describes.reported {field : Field} (described : draft.Describes platform earlier)
    (untagged : field.type.tag? platform = none) :
    Draft.Describes platform (earlier ++ [field])
      { draft with unmapped := draft.unmapped ++ [⟨field.name, field.type.name⟩] } where
  unmapped := by
    rw [Field.unmapped_append, described.unmapped]
    simp [Field.unmapped, untagged]
  names complete := by simp at complete
  count complete := by simp at complete
  member complete := by simp at complete

theorem Draft.run_add (described : draft.Describes platform earlier) (owner : String)
    (field : Field) (state : State) :
    ∃ after, (draft.add owner platform field earlier.length).run state =
        (.ok after, { state with events := state.events ++ complaints owner platform [field] }) ∧
      after.Describes platform (earlier ++ [field]) := by
  cases tagged : field.type.tag? platform with
  | none =>
      refine ⟨_, ?_, described.reported tagged⟩
      simp [Draft.add, tagged, complaints, Field.unmapped]
  | some tag =>
      refine ⟨_, ?_, described.mapped tagged⟩
      simp [Draft.add, tagged, complaints, Field.unmapped, Field.stored]

theorem Draft.run_addAll (described : draft.Describes platform earlier) (owner : String)
    (later : List Field) (state : State) :
    ∃ after, (draft.addAll owner platform earlier.length later).run state =
        (.ok after, { state with events := state.events ++ complaints owner platform later }) ∧
      after.Describes platform (earlier ++ later) := by
  -- Each field moves from the fields to come to the fields that the draft describes.
  induction later generalizing draft earlier state with
  | nil =>
      exact ⟨draft, by simp [Draft.addAll, complaints, Field.unmapped], by simpa using described⟩
  | cons field rest ih =>
      obtain ⟨middle, first, describedMiddle⟩ := Draft.run_add described owner field state
      obtain ⟨after, others, describedAfter⟩ := ih describedMiddle
        { state with events := state.events ++ complaints owner platform [field] }
      rw [List.length_append, List.length_singleton] at others
      refine ⟨after, ?_, by simpa using describedAfter⟩
      rw [Draft.addAll, Action.run_bind, first]
      simp only [others]
      rw [← List.singleton_append (l := rest), complaints_append, List.append_assoc]

end Draft

/-- A layout that has all names of some fields and a member for each. -/
structure Describes (layout : Layout) (typeName : String) (platform : Platform)
    (fields : List Field) : Prop where
  typeName : layout.typeName = typeName
  names : layout.names = fields.flatMap Field.stored
  count : layout.members.length = fields.length
  member : ∀ index, layout.members[index]? = Field.member? platform fields index

section Build

variable {typeName : String} {platform : Platform} {fields : List Field}

theorem run_build_of_many (many : greatestLength < fields.length) (state : State) :
    (build typeName fields platform).run state =
      (.ok (.error (.tooManyMembers typeName fields.length)),
        { state with events := state.events ++ [.tooManyMembers typeName fields.length] }) := by
  rw [build, if_pos many]
  rfl

theorem run_build_of_mapped (few : fields.length ≤ greatestLength)
    (mapped : ∀ field ∈ fields, ∃ tag, field.type.tag? platform = some tag) (state : State) :
    ∃ layout, layout.Describes typeName platform fields ∧
      (build typeName fields platform).run state = (.ok (.ok layout), { state with
        events := state.events ++
          [.laidOut typeName layout.members.length layout.names.length] }) := by
  obtain ⟨draft, ran, described⟩ :=
    Draft.run_addAll (Draft.Describes.start platform) typeName fields state
  rw [List.nil_append] at described
  have none := Field.unmapped_eq_nil_iff.2 mapped
  have complete : draft.unmapped = [] := described.unmapped.trans none
  -- The names take up as many bytes as planned, so that the check on them lets the draft through.
  have planned : draft.names.length = plannedSize fields := by
    rw [Field.plannedSize_eq, described.names complete]
  refine ⟨⟨typeName, draft.names, draft.members⟩,
    ⟨rfl, described.names complete, described.count complete, described.member complete⟩, ?_⟩
  rw [List.length_nil, complaints, none, List.map_nil, List.append_nil] at ran
  rw [build, if_neg (Nat.not_lt.2 few), Action.run_bind, ran]
  simp [complete, planned]

theorem run_build_of_unmapped (few : fields.length ≤ greatestLength)
    (unmapped : Field.unmapped platform fields ≠ []) (state : State) :
    (build typeName fields platform).run state =
      (.ok (.error (.unsupportedFields typeName (Field.unmapped platform fields))),
        { state with events := state.events ++ complaints typeName platform fields }) := by
  obtain ⟨draft, ran, described⟩ :=
    Draft.run_addAll (Draft.Describes.start platform) typeName fields state
  rw [List.nil_append] at described
  rw [List.length_nil] at ran
  rw [build, if_neg (Nat.not_lt.2 few), Action.run_bind, ran]
  simp [described.unmapped, unmapped]

/-- Either all fields have tags and are laid out, or the fields are refused. -/
theorem build_cases (typeName : String) (platform : Platform) (fields : List Field)
    (state : State) :
    (fields.length ≤ greatestLength ∧
      (∀ field ∈ fields, ∃ tag, field.type.tag? platform = some tag) ∧
      ∃ layout, ((build typeName fields platform).run state).1 = .ok (.ok layout) ∧
        layout.Describes typeName platform fields) ∨
    ((fields.length ≤ greatestLength →
        ¬ ∀ field ∈ fields, ∃ tag, field.type.tag? platform = some tag) ∧
      ∃ error, ((build typeName fields platform).run state).1 = .ok (.error error)) := by
  by_cases few : fields.length ≤ greatestLength
  · by_cases mapped : ∀ field ∈ fields, ∃ tag, field.type.tag? platform = some tag
    · obtain ⟨layout, described, ran⟩ := run_build_of_mapped few mapped state
      exact .inl ⟨few, mapped, layout, by rw [ran], described⟩
    · have unmapped : Field.unmapped platform fields ≠ [] :=
        fun none => mapped (Field.unmapped_eq_nil_iff.1 none)
      exact .inr ⟨fun _ => mapped, _, by rw [run_build_of_unmapped few unmapped]⟩
  · exact .inr ⟨fun short => absurd short few, _,
      by rw [run_build_of_many (Nat.lt_of_not_le few)]⟩

theorem build_ok_iff (few : fields.length ≤ greatestLength) (state : State) :
    (∃ layout, ((build typeName fields platform).run state).1 = .ok (.ok layout)) ↔
      ∀ field ∈ fields, ∃ tag, field.type.tag? platform = some tag := by
  rcases build_cases typeName platform fields state with
    ⟨_, mapped, layout, built, _⟩ | ⟨unmapped, error, refused⟩
  · exact ⟨fun _ => mapped, fun _ => ⟨layout, built⟩⟩
  · simp [refused, unmapped few]

theorem exists_build (few : fields.length ≤ greatestLength)
    (mapped : ∀ field ∈ fields, (field.type.tag? platform).isSome) (state : State) :
    ∃ layout, ((build typeName fields platform).run state).1 = .ok (.ok layout) :=
  (build_ok_iff few state).2 fun field member => Option.isSome_iff_exists.1 (mapped field member)

theorem describes_of_build {layout : Layout} {state : State}
    (built : ((build typeName fields platform).run state).1 = .ok (.ok layout)) :
    fields.length ≤ greatestLength ∧ layout.Describes typeName platform fields := by
  rcases build_cases typeName platform fields state with
    ⟨few, _, found, ran, described⟩ | ⟨_, error, refused⟩
  · rw [ran] at built
    cases built
    exact ⟨few, described⟩
  · rw [refused] at built
    cases built

theorem build_ne_halt (state : State) (halt : Halt) :
    ((build typeName fields platform).run state).1 ≠ .error halt := by
  intro halted
  rcases build_cases typeName platform fields state with
    ⟨_, _, layout, ran, _⟩ | ⟨_, error, refused⟩
  · rw [ran] at halted
    cases halted
  · rw [refused] at halted
    cases halted

end Build

namespace Describes

variable {layout : Layout} {typeName : String} {platform : Platform} {fields : List Field}
  {field : Field} {member : Member} {index : Nat}

theorem exists_member (described : layout.Describes typeName platform fields)
    (found : fields[index]? = some field) : ∃ member, layout.members[index]? = some member := by
  obtain ⟨inside, _⟩ := List.getElem?_eq_some_iff.1 found
  exact ⟨_, List.getElem?_eq_getElem (described.count ▸ inside)⟩

theorem exists_field (described : layout.Describes typeName platform fields)
    (there : layout.members[index]? = some member) : ∃ field, fields[index]? = some field := by
  obtain ⟨inside, _⟩ := List.getElem?_eq_some_iff.1 there
  exact ⟨_, List.getElem?_eq_getElem (described.count ▸ inside)⟩

theorem member_of_field (described : layout.Describes typeName platform fields)
    (found : fields[index]? = some field) (there : layout.members[index]? = some member) :
    field.type.tag? platform = some member.tag ∧ member.index = index ∧
      member.length = (Utf8.bytes (Field.externalName field.name)).length ∧
      member.offset = Field.offset fields index := by
  rw [described.member, Field.member?, found, Option.bind_some] at there
  obtain ⟨tag, tagged, rfl⟩ := Option.map_eq_some_iff.1 there
  exact ⟨tagged, rfl, rfl, rfl⟩

theorem sizes_eq (described : layout.Describes typeName platform fields) :
    layout.members.map (fun member => member.length + 1) =
      fields.map fun field => field.stored.length := by
  apply List.ext_getElem (by simp [described.count])
  intro index left right
  have inside : index < layout.members.length := by simpa using left
  have among : index < fields.length := by simpa using right
  obtain ⟨_, _, length, _⟩ := described.member_of_field (List.getElem?_eq_getElem among)
    (List.getElem?_eq_getElem inside)
  simp [length, Field.length_stored]

theorem offset_eq (described : layout.Describes typeName platform fields) (index : Nat) :
    Field.offset fields index =
      ((layout.members.take index).map fun earlier => earlier.length + 1).sum := by
  rw [Field.offset, List.map_take, ← described.sizes_eq, List.map_take]

theorem memberName_eq (described : layout.Describes typeName platform fields)
    (found : fields[index]? = some field) (there : layout.members[index]? = some member) :
    layout.memberName member = Field.externalName field.name := by
  obtain ⟨_, _, length, offset⟩ := described.member_of_field found there
  rw [memberName, described.names, length, offset, Field.drop_offset_of_field found,
    List.take_left, Utf8.decode?_bytes]
  exact String.ofList_toList

end Describes

end Layout

/-- The building of a layout never halts. A list of fields that is not too long is laid out exactly
when every field has a tag, and the layout holds their external names in declaration order, each
with a zero byte behind, and a member for each with its place among them. A longer list is refused
for its length alone. -/
theorem build_lays_out_fields (typeName : String) (platform : Platform) (fields : List Field)
    (state : State) :
    (∀ halt, ((Layout.build typeName fields platform).run state).1 ≠ .error halt) ∧
      (fields.length ≤ greatestLength →
        ((∃ layout, ((Layout.build typeName fields platform).run state).1 = .ok (.ok layout)) ↔
          ∀ field ∈ fields, ∃ tag,
            ((tagOfType field.type platform).run state).1 = .ok (.ok tag))) ∧
      (∀ layout, ((Layout.build typeName fields platform).run state).1 = .ok (.ok layout) →
        layout.typeName = typeName ∧ layout.members.length = fields.length ∧
        (∀ index field member, fields[index]? = some field →
          layout.members[index]? = some member →
            member.index = index ∧
            ((tagOfType field.type platform).run state).1 = .ok (.ok member.tag) ∧
            member.length = (Field.externalName field.name).utf8ByteSize ∧
            member.offset =
              ((layout.members.take index).map fun earlier => earlier.length + 1).sum ∧
            layout.memberName member = Field.externalName field.name) ∧
        layout.names =
          fields.flatMap (fun field => Utf8.bytes (Field.externalName field.name) ++ [0]) ∧
        layout.names.length = (layout.members.map fun member => member.length + 1).sum) ∧
      (greatestLength < fields.length →
        (Layout.build typeName fields platform).run state =
          (.ok (.error (.tooManyMembers typeName fields.length)), { state with
            events := state.events ++ [.tooManyMembers typeName fields.length] })) := by
  refine ⟨Layout.build_ne_halt state, ?_, ?_, fun many => Layout.run_build_of_many many state⟩
  · intro few
    simp only [tagOfType_ok_iff]
    exact Layout.build_ok_iff few state
  · intro layout built
    obtain ⟨_, described⟩ := Layout.describes_of_build built
    refine ⟨described.typeName, described.count, ?_, described.names, ?_⟩
    · intro index field member found there
      obtain ⟨tagged, position, length, offset⟩ := described.member_of_field found there
      refine ⟨position, tagOfType_ok_iff.2 tagged, ?_, ?_, described.memberName_eq found there⟩
      · rw [length, Utf8.length_bytes]
      · rw [offset, described.offset_eq]
    · rw [described.names, List.length_flatMap, described.sizes_eq]

namespace Sample

def fields : List Field := [
  ⟨"\u0130d", .text, by decide⟩, ⟨"\u212aelvin", .int, by decide⟩, ⟨"", .bool, by decide⟩,
  ⟨"Same", .float64, by decide⟩, ⟨"same", .any, by decide⟩]

end Sample

theorem build_lays_out_folded_names :
    ∃ layout, ((Layout.build "Sample" Sample.fields .narrow).run {}).1 = .ok (.ok layout) ∧
      layout.members.length = 5 ∧
      layout.names = [0x69, 0xcc, 0x87, 0x64, 0] ++ [0x6b, 0x65, 0x6c, 0x76, 0x69, 0x6e, 0] ++
        [0] ++ [0x73, 0x61, 0x6d, 0x65, 0] ++ [0x73, 0x61, 0x6d, 0x65, 0] ∧
      ∀ member, layout.members[1]? = some member →
        member.tag = .int32 ∧ member.length = 6 ∧ layout.memberName member = "kelvin" := by
  obtain ⟨_, exactly, correct, _⟩ := build_lays_out_fields "Sample" .narrow Sample.fields {}
  have mapped : ∀ field ∈ Sample.fields, ∃ tag,
      ((tagOfType field.type .narrow).run {}).1 = .ok (.ok tag) := by
    simp only [tagOfType_ok_iff, ← Option.isSome_iff_exists]
    decide
  obtain ⟨layout, built⟩ := (exactly (by decide)).2 mapped
  obtain ⟨_, count, member, names, _⟩ := correct layout built
  have stored : (Sample.fields.flatMap fun field =>
      Utf8.bytes (Field.externalName field.name) ++ [0]) =
        [0x69, 0xcc, 0x87, 0x64, 0] ++ [0x6b, 0x65, 0x6c, 0x76, 0x69, 0x6e, 0] ++ [0] ++
          [0x73, 0x61, 0x6d, 0x65, 0] ++ [0x73, 0x61, 0x6d, 0x65, 0] := by
    decide +kernel
  refine ⟨layout, built, count, names.trans stored, ?_⟩
  intro second there
  obtain ⟨_, tagged, length, _, name⟩ := member 1 _ second rfl there
  have folded : Field.externalName "\u212aelvin" = "kelvin" := by decide +kernel
  rw [folded] at length name
  have tag : some Tag.int32 = some second.tag := tagOfType_ok_iff.1 tagged
  exact ⟨(Option.some.inj tag).symm, length, name⟩

end Boundary
