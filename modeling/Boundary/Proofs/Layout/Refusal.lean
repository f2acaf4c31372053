import Boundary.Proofs.Layout.Build

/-!
Fields that keep a composite from being laid out. Main statement: every field without a tag is
reported, in declaration order, and the fields with tags among them change nothing about it.
-/

namespace Boundary

theorem tagOfType_error_iff {type : HostType} {platform : Platform} {state : State} {error : Error} :
    ((tagOfType type platform).run state).1 = .ok (.error error) ↔
      type.tag? platform = none ∧ error = .unsupportedType type.name := by
  cases mapped : type.tag? platform with
  | some tag => simp [tagOfType, mapped]
  | none => simp [tagOfType, mapped, eq_comm]

namespace Field

def untagged (platform : Platform) (fields : List Field) : List Field :=
  fields.filter fun field => (field.type.tag? platform).isNone

def report (field : Field) : UnmappedField := ⟨field.name, field.type.name⟩

def complaint (owner : String) (field : Field) : Event :=
  .unmappedField owner field.name field.type.name

variable {platform : Platform} {fields : List Field} {field : Field}

theorem unmapped_eq (platform : Platform) (fields : List Field) :
    unmapped platform fields = (untagged platform fields).map report := rfl

theorem complaints_eq (owner : String) (platform : Platform) (fields : List Field) :
    Layout.complaints owner platform fields = (untagged platform fields).map (complaint owner) := by
  rw [Layout.complaints, unmapped_eq, List.map_map]
  rfl

theorem mem_untagged_iff {state : State} : field ∈ untagged platform fields ↔ field ∈ fields ∧
    ((tagOfType field.type platform).run state).1 =
      .ok (.error (.unsupportedType field.type.name)) := by
  rw [untagged, List.mem_filter, Option.isNone_iff_eq_none, tagOfType_error_iff, and_iff_left rfl]

theorem unmapped_ne_nil (among : field ∈ untagged platform fields) : unmapped platform fields ≠ [] := by
  intro none
  rw [unmapped_eq, List.map_eq_nil_iff] at none
  rw [none] at among
  exact List.not_mem_nil among

end Field

theorem Layout.run_build_of_untagged {typeName : String} {platform : Platform} {fields : List Field}
    {field : Field} (few : fields.length ≤ greatestLength)
    (among : field ∈ Field.untagged platform fields) (state : State) :
    (Layout.build typeName fields platform).run state =
      (.ok (.error (.unsupportedFields typeName
        ((Field.untagged platform fields).map Field.report))),
      { state with events := state.events ++
        (Field.untagged platform fields).map (Field.complaint typeName) }) := by
  rw [run_build_of_unmapped few (Field.unmapped_ne_nil among), Field.unmapped_eq,
    Field.complaints_eq]

/-- If some fields of a composite have no tag, and it has no more fields than a record can count, it is
refused with a report of just these fields, in declaration order, each under its source name and the
name of its type; the log gets one error for each and nothing else changes. Any other fields, with the
same fields without a tag in the same order among them, are refused in the very same way. -/
theorem untagged_fields_all_reported {typeName : String} {platform : Platform} {fields : List Field}
    {state : State} (few : fields.length ≤ greatestLength)
    (unsupported : ∃ field ∈ fields, ∃ error,
      ((tagOfType field.type platform).run state).1 = .ok (.error error)) :
    (Layout.build typeName fields platform).run state =
        (.ok (.error (.unsupportedFields typeName
          ((Field.untagged platform fields).map fun field => ⟨field.name, field.type.name⟩))),
        { state with events := state.events ++
          (Field.untagged platform fields).map (Field.complaint typeName) }) ∧
      (∀ field, field ∈ Field.untagged platform fields ↔ field ∈ fields ∧
        ((tagOfType field.type platform).run state).1 =
          .ok (.error (.unsupportedType field.type.name))) ∧
      (∀ field, (Field.complaint typeName field).level = .error ∧
        (Field.complaint typeName field).name = "unsupported_field") ∧
      ∀ others : List Field, others.length ≤ greatestLength →
        Field.untagged platform others = Field.untagged platform fields →
        (Layout.build typeName others platform).run state =
          (Layout.build typeName fields platform).run state := by
  obtain ⟨field, among, error, refused⟩ := unsupported
  obtain ⟨untagged, _⟩ := tagOfType_error_iff.1 refused
  have reported : field ∈ Field.untagged platform fields :=
    List.mem_filter.2 ⟨among, Option.isNone_iff_eq_none.2 untagged⟩
  refine ⟨?_, fun field => Field.mem_untagged_iff, fun field => ⟨rfl, rfl⟩, ?_⟩
  · exact Layout.run_build_of_untagged few reported state
  · intro others otherFew same
    have alsoReported : field ∈ Field.untagged platform others := by
      rw [same]
      exact reported
    rw [Layout.run_build_of_untagged few reported,
      Layout.run_build_of_untagged otherFew alsoReported, same]

namespace Sample

def bytesField : Field := ⟨"Tags", .other 0 "alloc::vec::Vec<u8>", by decide⟩

def flagsField : Field := ⟨"Flags", .other 1 "u8", by decide⟩

def partlyTagged : List Field := [
  ⟨"Ok", .int32, by decide⟩, bytesField, flagsField, ⟨"Name", .text, by decide⟩, bytesField]

def rearranged : List Field := [
  bytesField, ⟨"Name", .text, by decide⟩, flagsField, bytesField, ⟨"More", .any, by decide⟩]

end Sample

theorem rearranged_fields_refused_alike :
    (Layout.build "Broken" Sample.partlyTagged .wide).run {} =
        (.ok (.error (.unsupportedFields "Broken"
          [⟨"Tags", "alloc::vec::Vec<u8>"⟩, ⟨"Flags", "u8"⟩, ⟨"Tags", "alloc::vec::Vec<u8>"⟩])),
        { events := [.unmappedField "Broken" "Tags" "alloc::vec::Vec<u8>",
          .unmappedField "Broken" "Flags" "u8",
          .unmappedField "Broken" "Tags" "alloc::vec::Vec<u8>"] }) ∧
      (Layout.build "Broken" Sample.rearranged .wide).run {} =
        (Layout.build "Broken" Sample.partlyTagged .wide).run {} := by
  have untagged : Field.untagged .wide Sample.partlyTagged =
      [Sample.bytesField, Sample.flagsField, Sample.bytesField] := by rfl
  have refused : ((tagOfType Sample.flagsField.type .wide).run {}).1 =
      .ok (.error (.unsupportedType "u8")) := by rfl
  have few : Sample.partlyTagged.length ≤ greatestLength := by decide
  have among : Sample.flagsField ∈ Sample.partlyTagged := by simp [Sample.partlyTagged]
  obtain ⟨report, _, _, same⟩ :=
    untagged_fields_all_reported few ⟨Sample.flagsField, among, _, refused⟩
  refine ⟨?_, same Sample.rearranged (by decide) (by rfl)⟩
  rw [report, untagged]
  rfl

end Boundary
