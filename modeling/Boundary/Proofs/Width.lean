import Boundary.Echo
import Boundary.Proofs.Bridge.Guard
import Boundary.Proofs.Decoding
import Boundary.Proofs.Decoding.Designated
import Boundary.Proofs.Layout.Build

/-!
What depends on the width of the native integer. Main statement: two hosts of different widths lay out
a composite alike, apart from the tags of its platform integers, and encode values alike, apart from
platform integers, whose records read as the same number.
-/

namespace Boundary

section Types

variable {type : HostType} {fields : List Field} (one other : Platform)

theorem HostType.tag?_of_fixed (fixed : type ≠ .int) : type.tag? one = type.tag? other := by
  simp only [tag?, if_neg fixed]

theorem HostType.tag?_int (platform : Platform) :
    HostType.int.tag? platform = some platform.integerTag := rfl

theorem HostType.isNone_tag? (type : HostType) :
    (type.tag? one).isNone = (type.tag? other).isNone := by
  by_cases fixed : type = .int
  · rw [fixed, tag?_int, tag?_int]
    rfl
  · rw [tag?_of_fixed one other fixed]

theorem Field.unmapped_of_any (fields : List Field) :
    Field.unmapped one fields = Field.unmapped other fields := by
  simp only [Field.unmapped, HostType.isNone_tag? one other]

theorem Layout.complaints_of_any (owner : String) (fields : List Field) :
    Layout.complaints owner one fields = Layout.complaints owner other fields := by
  rw [Layout.complaints, Field.unmapped_of_any one other, Layout.complaints]

end Types

/-- Two layouts of the same fields that differ in the tags of the platform integers, and in nothing
else. -/
structure Layout.DifferInWidth (fields : List Field) (wide narrow : Layout) : Prop where
  typeName : wide.typeName = narrow.typeName
  names : wide.names = narrow.names
  wideCount : wide.members.length = fields.length
  narrowCount : narrow.members.length = fields.length
  place : ∀ (index : Nat) (first second : Member), wide.members[index]? = some first →
    narrow.members[index]? = some second →
      first.offset = second.offset ∧ first.length = second.length ∧ first.index = second.index
  tag_of_int : ∀ (index : Nat) (field : Field) (first second : Member),
    fields[index]? = some field → wide.members[index]? = some first →
    narrow.members[index]? = some second → field.type = .int →
      first.tag = .int64 ∧ second.tag = .int32
  tag_of_fixed : ∀ (index : Nat) (field : Field) (first second : Member),
    fields[index]? = some field → wide.members[index]? = some first →
    narrow.members[index]? = some second → field.type ≠ .int → first.tag = second.tag

section Layouts

variable {typeName : String} {fields : List Field}

theorem Layout.Describes.differInWidth {wide narrow : Layout}
    (left : wide.Describes typeName .wide fields)
    (right : narrow.Describes typeName .narrow fields) :
    Layout.DifferInWidth fields wide narrow where
  typeName := left.typeName.trans right.typeName.symm
  names := left.names.trans right.names.symm
  wideCount := left.count
  narrowCount := right.count
  place index first second there here := by
    obtain ⟨field, found⟩ := left.exists_field there
    obtain ⟨_, firstIndex, firstLength, firstOffset⟩ := left.member_of_field found there
    obtain ⟨_, secondIndex, secondLength, secondOffset⟩ := right.member_of_field found here
    exact ⟨firstOffset.trans secondOffset.symm, firstLength.trans secondLength.symm,
      firstIndex.trans secondIndex.symm⟩
  tag_of_int index field first second found there here native := by
    obtain ⟨wideTag, _⟩ := left.member_of_field found there
    obtain ⟨narrowTag, _⟩ := right.member_of_field found here
    rw [native, HostType.tag?_int] at wideTag narrowTag
    exact ⟨(Option.some.inj wideTag).symm, (Option.some.inj narrowTag).symm⟩
  tag_of_fixed index field first second found there here fixed := by
    obtain ⟨wideTag, _⟩ := left.member_of_field found there
    obtain ⟨narrowTag, _⟩ := right.member_of_field found here
    rw [HostType.tag?_of_fixed .wide .narrow fixed, narrowTag] at wideTag
    exact (Option.some.inj wideTag).symm

/-- Both hosts refuse the fields for the same reason, or both lay them out, and with the same effects. -/
theorem Layout.build_of_any (typeName : String) (fields : List Field) (state : State) :
    (∃ error after,
        (Layout.build typeName fields .wide).run state = (.ok (.error error), after) ∧
        (Layout.build typeName fields .narrow).run state = (.ok (.error error), after)) ∨
      ∃ wide narrow after, Layout.DifferInWidth fields wide narrow ∧
        (Layout.build typeName fields .wide).run state = (.ok (.ok wide), after) ∧
        (Layout.build typeName fields .narrow).run state = (.ok (.ok narrow), after) := by
  by_cases few : fields.length ≤ greatestLength
  · by_cases none : Field.unmapped .wide fields = []
    · have alsoNone : Field.unmapped .narrow fields = [] :=
        (Field.unmapped_of_any .narrow .wide fields).trans none
      obtain ⟨wide, (left : wide.Describes typeName .wide fields), wideRan⟩ :=
        run_build_of_mapped few (Field.unmapped_eq_nil_iff.1 none) state
      obtain ⟨narrow, (right : narrow.Describes typeName .narrow fields), narrowRan⟩ :=
        run_build_of_mapped few (Field.unmapped_eq_nil_iff.1 alsoNone) state
      rw [left.count, left.names] at wideRan
      rw [right.count, right.names] at narrowRan
      exact .inr ⟨wide, narrow, _, left.differInWidth right, wideRan, narrowRan⟩
    · have alsoSome : Field.unmapped .narrow fields ≠ [] := by
        rw [Field.unmapped_of_any .narrow .wide]
        exact none
      refine .inl ⟨_, _, run_build_of_unmapped few none state, ?_⟩
      rw [run_build_of_unmapped few alsoSome, Field.unmapped_of_any .narrow .wide,
        Layout.complaints_of_any .narrow .wide]
  · have many := Nat.lt_of_not_le few
    exact .inl ⟨_, _, run_build_of_many many state, run_build_of_many many state⟩

end Layouts

/-- Two runs that end with results that belong together, or with one and the same halt. -/
inductive SameEnd {first second : Type} (related : first → second → Prop) :
    Except Halt first → Except Halt second → Prop
  | ok {value : first} {other : second} (relates : related value other) :
      SameEnd related (.ok value) (.ok other)
  | halt (cause : Halt) : SameEnd related (.error cause) (.error cause)

theorem SameEnd.imp {first second : Type} {related results : first → second → Prop}
    {one : Except Halt first} {other : Except Halt second} (ends : SameEnd related one other)
    (weaker : ∀ value result, related value result → results value result) :
    SameEnd results one other := by
  cases ends with
  | ok relates => exact .ok (weaker _ _ relates)
  | halt cause => exact .halt cause

theorem SameEnd.exists_of_ok {first second : Type} {related : first → second → Prop} {value : first}
    {other : Except Halt second} (ends : SameEnd related (.ok value) other) :
    ∃ result, other = .ok result ∧ related value result := by
  cases ends with
  | ok relates => exact ⟨_, rfl, relates⟩

def Action.Alike {first second : Type} (related : first → second → Prop) (left : Action first)
    (right : Action second) : Prop :=
  ∀ one other : State, one.SameButLog other →
    SameEnd related (left.run one).1 (right.run other).1 ∧
      (left.run one).2.SameButLog (right.run other).2

namespace Action.Alike

variable {first second third fourth : Type} {related : first → second → Prop}
  {results : third → fourth → Prop}

theorem pure {value : first} {other : second} (relates : related value other) :
    Action.Alike related (Pure.pure value) (Pure.pure other) :=
  fun _ _ same => ⟨.ok relates, same⟩

theorem imp {left : Action first} {right : Action second} {results : first → second → Prop}
    (alike : Action.Alike related left right)
    (weaker : ∀ value other, related value other → results value other) :
    Action.Alike results left right := by
  intro one other same
  obtain ⟨ends, after⟩ := alike one other same
  exact ⟨ends.imp weaker, after⟩

theorem emit (event other : Event) : Action.Alike Eq (Action.emit event) (Action.emit other) :=
  fun _ _ same => ⟨.ok rfl, same.registry, same.objects, same.memory⟩

theorem bind {left : Action first} {right : Action second} {next : first → Action third}
    {after : second → Action fourth} (before : Action.Alike related left right)
    (later : ∀ value other, related value other →
      Action.Alike results (next value) (after other)) :
    Action.Alike results (left >>= next) (right >>= after) := by
  intro one other same
  obtain ⟨ends, middle⟩ := before one other same
  rw [Action.run_bind, Action.run_bind]
  rcases leftRan : left.run one with ⟨outcome, oneAfter⟩
  rcases rightRan : right.run other with ⟨result, otherAfter⟩
  rw [leftRan, rightRan] at ends middle
  cases ends with
  | ok relates => exact later _ _ relates oneAfter otherAfter middle
  | halt cause => exact ⟨.halt cause, middle⟩

end Action.Alike

theorem State.SameButLog.likeness : State.Likeness State.SameButLog where
  registry same := same.registry
  emit _ _ _ same := ⟨rfl, same.registry, same.objects, same.memory⟩
  retainObject object _ _ same :=
    ⟨rfl, same.registry, congrArg (·.retain object) same.objects, same.memory⟩
  setRegistry _ _ _ same := ⟨rfl, rfl, same.objects, same.memory⟩

theorem Action.Respects.alike {result : Type} {action : Action result}
    (respects : action.Respects State.SameButLog) : Action.Alike Eq action action := by
  intro one other same
  obtain ⟨ends, after⟩ := respects one other same
  rw [← ends]
  cases (action.run one).1 with
  | ok value => exact ⟨.ok rfl, after⟩
  | error halt => exact ⟨.halt halt, after⟩

theorem encodeContents_of_fixed {value : Value} (fixed : ∀ number, value ≠ .int number)
    (one other : Platform) : encodeContents one value = encodeContents other value := by
  cases value with
  | int number => exact absurd rfl (fixed number)
  | _ => rfl

def Value.integer? : Value → Option Int
  | int value | int64 value => some value.toInt
  | int32 value => some value.toInt
  | _ => none

/-- A record that native code hands back is decoded to this number, whatever happened in between. -/
def Record.ReadsAs (record : Record) (number : Int) : Prop :=
  ∀ (placement : Placement) (state : State), ∃ value,
    ((echoRecord placement record >>= unpack).run state).1 = .ok (some value) ∧
      value.integer? = some number

theorem Record.readsAs_int64 (value : Int64) :
    (Record.scalar .int64 (.ofInt64 value)).ReadsAs value.toInt := by
  intro placement state
  have ran := run_unpack_of_tag (NativeRecord.tag?_ordinal .int64 (.ofInt64 value) 0) state
  refine ⟨.int64 value, ?_, rfl⟩
  simp [echoRecord, Record.scalar, ran, unpackAs]

theorem Record.readsAs_int32 (value : Int32) :
    (Record.scalar .int32 (.ofInt32 value)).ReadsAs value.toInt := by
  intro placement state
  have ran := run_unpack_of_tag (NativeRecord.tag?_ordinal .int32 (.ofInt32 value) 0) state
  refine ⟨.int32 value, ?_, rfl⟩
  simp [echoRecord, Record.scalar, ran, unpackAs]

/-- The records of a value on a wide and on a narrow host: the same, but for a platform integer, which
has a record of either width that reads as its number. -/
inductive Value.SentAlike : Value → Record → Record → Prop
  | fixed {value : Value} (fixed : ∀ number, value ≠ .int number) (record : Record) :
      SentAlike value record record
  | int {number : Int64} {long short : Record} (longTag : long.tag = .int64)
      (longReads : long.ReadsAs number.toInt) (shortTag : short.tag = .int32)
      (shortReads : short.ReadsAs number.toInt) : SentAlike (.int number) long short

inductive EncodedAlike : List Value → List Record → List Record → Prop
  | nil : EncodedAlike [] [] []
  | cons {value : Value} {values : List Value} {long short : Record} {wide narrow : List Record}
      (first : value.SentAlike long short) (rest : EncodedAlike values wide narrow) :
      EncodedAlike (value :: values) (long :: wide) (short :: narrow)

def Value.FitsBoth (value : Value) : Prop :=
  ∀ number, value = .int number → -0x80000000 ≤ number.toInt ∧ number.toInt < 0x80000000

theorem encodeContents_sentAlike {value : Value} (fits : value.FitsBoth) :
    Action.Alike value.SentAlike (encodeContents .wide value) (encodeContents .narrow value) := by
  by_cases native : ∃ number, value = .int number
  · -- The narrow encoder refuses nothing that fits, so neither side halts here.
    obtain ⟨number, rfl⟩ := native
    obtain ⟨low, high⟩ := fits number rfl
    have short : encodeContents .narrow (.int number) =
        pure (.scalar .int32 (.ofInt32 number.toInt32)) := by
      rw [encodeContents, encodePlatformInteger, if_pos ((fits_iff number).2 ⟨low, high⟩)]
    have reads := Record.readsAs_int32 number.toInt32
    rw [toInt_toInt32_of_fits low high] at reads
    rw [short]
    exact .pure (.int rfl (Record.readsAs_int64 number) rfl reads)
  · -- The platform is not looked at, but an object that is wrapped may still be refused on both.
    have fixed : ∀ number, value ≠ .int number := fun number same => native ⟨number, same⟩
    rw [encodeContents_of_fixed fixed .narrow .wide]
    refine (State.SameButLog.likeness.encodeContents .wide value).alike.imp ?_
    rintro record _ rfl
    exact .fixed fixed record

theorem pack_sentAlike {value : Value} (fits : value.FitsBoth) :
    Action.Alike value.SentAlike (pack .wide value) (pack .narrow value) := by
  refine .bind (encodeContents_sentAlike fits) ?_
  intro long short relates
  exact .bind (.emit _ _) fun _ _ _ => .pure relates

theorem packAll_encodedAlike {values : List Value} (fits : ∀ value ∈ values, value.FitsBoth) :
    Action.Alike (EncodedAlike values) (packAll .wide values) (packAll .narrow values) := by
  induction values with
  | nil => exact .pure .nil
  | cons value rest ih =>
      have others := ih fun other member => fits other (List.mem_cons_of_mem _ member)
      refine .bind (pack_sentAlike (fits value List.mem_cons_self)) ?_
      intro long short first
      refine .bind others ?_
      intro wide narrow alike
      exact .pure (.cons first alike)

/-- Whatever two integer types are probed, if one reaches past the signed 32-bit range and the other does
not, then a composite is refused under both for the same reason or laid out under both, with the same
names, places and effects; the tags differ for the platform integers only. Values whose platform
integers fit 32 bits are encoded to the same records, apart from these integers, or halt in the same
way, and they leave the same registry, objects and memory. -/
theorem width_changes_platform_integers_only {long short : IntegerType}
    (wide : long.widerThanInt32 = true) (narrow : short.widerThanInt32 = false) (state : State) :
    (∀ (typeName : String) (fields : List Field),
      (∃ error after,
          (Layout.build typeName fields (.probe long)).run state = (.ok (.error error), after) ∧
          (Layout.build typeName fields (.probe short)).run state = (.ok (.error error), after)) ∨
        ∃ left right after, Layout.DifferInWidth fields left right ∧
          (Layout.build typeName fields (.probe long)).run state = (.ok (.ok left), after) ∧
          (Layout.build typeName fields (.probe short)).run state = (.ok (.ok right), after)) ∧
      ∀ values : List Value,
        (∀ number, .int number ∈ values →
          -0x80000000 ≤ number.toInt ∧ number.toInt < 0x80000000) →
        SameEnd (EncodedAlike values) ((packAll (.probe long) values).run state).1
            ((packAll (.probe short) values).run state).1 ∧
          ((packAll (.probe long) values).run state).2.SameButLog
            ((packAll (.probe short) values).run state).2 := by
  have longPlatform : Platform.probe long = .wide := if_pos wide
  have shortPlatform : Platform.probe short = .narrow :=
    if_neg (Bool.eq_false_iff.1 narrow)
  rw [longPlatform, shortPlatform]
  constructor
  · intro typeName fields
    exact Layout.build_of_any typeName fields state
  · intro values fits
    have each : ∀ value ∈ values, value.FitsBoth := by
      rintro _ member number rfl
      exact fits number member
    exact packAll_encodedAlike each state state ⟨rfl, rfl, rfl⟩

namespace Sample

def mixedIntegers : List Field := [
  ⟨"Count", .int, by decide⟩, ⟨"Total", .int64, by decide⟩, ⟨"Step", .int32, by decide⟩]

theorem exists_layout_mixedIntegers : ∃ layout,
    ((Layout.build "Mixed" mixedIntegers (.probe ⟨true, 64⟩)).run {}).1 = .ok (.ok layout) :=
  Layout.exists_build (by decide) (by decide) {}

def mixedValues : List Value := [.int (-7), .int64 0x100000000, .string "steps"]

end Sample

theorem width_changes_first_member_and_record :
    (∃ left right, Layout.DifferInWidth Sample.mixedIntegers left right ∧
        ((Layout.build "Mixed" Sample.mixedIntegers (.probe ⟨true, 64⟩)).run {}).1 =
          .ok (.ok left) ∧
        ((Layout.build "Mixed" Sample.mixedIntegers (.probe ⟨true, 32⟩)).run {}).1 =
          .ok (.ok right)) ∧
      ∃ long short records,
        ((packAll (.probe ⟨true, 64⟩) Sample.mixedValues).run {}).1 = .ok (long :: records) ∧
        ((packAll (.probe ⟨true, 32⟩) Sample.mixedValues).run {}).1 = .ok (short :: records) ∧
        long.tag = .int64 ∧ short.tag = .int32 ∧ long.ReadsAs (-7) ∧ short.ReadsAs (-7) := by
  have wide : IntegerType.widerThanInt32 ⟨true, 64⟩ = true := by decide
  have narrow : IntegerType.widerThanInt32 ⟨true, 32⟩ = false := by decide
  obtain ⟨built, encoded⟩ := width_changes_platform_integers_only wide narrow {}
  constructor
  · obtain ⟨layout, ran⟩ := Sample.exists_layout_mixedIntegers
    rcases built "Mixed" Sample.mixedIntegers with
      ⟨_, _, refused, _⟩ | ⟨left, right, _, differ, leftRan, rightRan⟩
    · rw [refused] at ran
      cases ran
    · exact ⟨left, right, differ, by rw [leftRan], by rw [rightRan]⟩
  · have fits : ∀ number, Value.int number ∈ Sample.mixedValues →
        -0x80000000 ≤ number.toInt ∧ number.toInt < 0x80000000 := by
      intro number member
      have same : number = -7 := by simpa [Sample.mixedValues] using member
      rw [same]
      decide
    obtain ⟨ends, _⟩ := encoded Sample.mixedValues fits
    have sent : ∃ records, ((packAll (.probe ⟨true, 64⟩) Sample.mixedValues).run {}).1 =
        .ok records := ⟨_, rfl⟩
    obtain ⟨records, wideRan⟩ := sent
    rw [wideRan] at ends
    obtain ⟨others, narrowRan, alike⟩ := ends.exists_of_ok
    rw [wideRan, narrowRan]
    obtain _ | ⟨first, _ | ⟨second, _ | ⟨third, _ | _⟩⟩⟩ := alike
    obtain ⟨fixed⟩ | ⟨longTag, longReads, shortTag, shortReads⟩ := first
    · exact absurd rfl (fixed _)
    · cases second
      cases third
      exact ⟨_, _, _, rfl, rfl, longTag, shortTag, longReads, shortReads⟩

end Boundary
