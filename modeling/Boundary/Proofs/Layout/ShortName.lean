import Boundary.Proofs.Layout.TypeName
import Mathlib.Data.List.TakeWhile

/-!
Short names of types. Only what stands before the first opening bracket of a full name counts, and of
that only what follows the last double colon. Main statements: the short name of a plain path is its
last identifier, whatever its arguments; but it is empty for a type whose path starts with a head in
brackets or has one behind its modules.
-/

namespace Boundary

namespace HostType

section Cut

variable {segment path : List Char}

theorem head_eq_self (plain : '<' ∉ path) : head path = path := by
  rw [head, List.takeWhile_eq_self_iff]
  intro char among
  rw [bne_iff_ne]
  rintro rfl
  exact plain among

theorem head_append_bracket (before after : List Char) :
    head (before ++ '<' :: after) = head before := by
  induction before with
  | nil => rfl
  | cons char before ih =>
      by_cases bracket : char = '<'
      · subst bracket
        rfl
      · have kept (rest : List Char) : head (char :: rest) = char :: head rest :=
          List.takeWhile_cons_of_pos (bne_iff_ne.2 bracket)
        rw [List.cons_append, kept, kept, ih]

theorem afterColons?_of_not_mem (char : Char) (plain : ':' ∉ path) :
    afterColons? (char :: path) = none := by
  unfold afterColons?
  split
  next same =>
    cases same
    exact absurd List.mem_cons_self plain
  next => rfl

theorem lastSegment_of_not_mem (plain : ':' ∉ path) : lastSegment segment path = segment := by
  induction path generalizing segment with
  | nil => rfl
  | cons char rest ih =>
      have later : ':' ∉ rest := fun among => plain (List.mem_cons_of_mem char among)
      rw [lastSegment, afterColons?_of_not_mem char later]
      exact ih later

theorem lastSegment_colons (plain : ':' ∉ path) :
    lastSegment segment (':' :: ':' :: path) = path := by
  rw [lastSegment, lastSegment, afterColons?_of_not_mem ':' plain]
  exact lastSegment_of_not_mem plain

theorem lastSegment_append_colons (before : List Char) (plain : ':' ∉ path) :
    lastSegment segment (before ++ ':' :: ':' :: path) = path := by
  induction before generalizing segment with
  | nil => exact lastSegment_colons plain
  -- Colons further left, also one that joins the last two, only replace the segment kept so far.
  | cons char before ih => exact ih

end Cut

def Identifier (text : String) : Prop := ':' ∉ text.toList ∧ '<' ∉ text.toList

instance (text : String) : Decidable (Identifier text) := inferInstanceAs (Decidable (_ ∧ _))

def inBrackets (text : String) : String := "<" ++ text ++ ">"

def withArguments (path : String) : Option String → String
  | none => path
  | some arguments => path ++ inBrackets arguments

/-- The full name of a type: the modules it lies in, its own name, and its arguments if it has any. -/
def fullName (modules : List String) (name : String) (arguments : Option String) : String :=
  withArguments ("::".intercalate (modules ++ [name])) arguments

variable {scope name : String}

theorem shortName_append_inBrackets (before inside after : String) :
    shortName (before ++ inBrackets inside ++ after) = shortName before := by
  have opened : (before ++ inBrackets inside ++ after).toList =
      before.toList ++ '<' :: (inside ++ ">" ++ after).toList := by
    simp only [inBrackets, String.toList_append, String.reduceToList, List.append_assoc,
      List.cons_append, List.nil_append]
  rw [shortName, opened, head_append_bracket, shortName]

theorem shortName_withArguments (path : String) (arguments : Option String) :
    shortName (withArguments path arguments) = shortName path := by
  cases arguments with
  | none => rfl
  | some arguments =>
      rw [withArguments, ← shortName_append_inBrackets path arguments "", String.append_empty]

theorem shortName_of_identifier (plain : Identifier name) : shortName name = name := by
  rw [shortName, head_eq_self plain.2, lastSegment_of_not_mem plain.1, String.ofList_toList]

theorem shortName_append_colons (scopePlain : '<' ∉ scope.toList) (plain : Identifier name) :
    shortName (scope ++ "::" ++ name) = name := by
  have colons : (scope ++ "::" ++ name).toList = scope.toList ++ ':' :: ':' :: name.toList := by
    simp only [String.toList_append, String.reduceToList, List.append_assoc, List.cons_append,
      List.nil_append]
  have noBracket : '<' ∉ scope.toList ++ ':' :: ':' :: name.toList := by
    simp only [List.mem_append, List.mem_cons, Char.reduceEq, false_or, not_or]
    exact ⟨scopePlain, plain.2⟩
  rw [shortName, colons, head_eq_self noBracket, lastSegment_append_colons _ plain.1,
    String.ofList_toList]

theorem bracket_notMem_intercalate {modules : List String}
    (plain : ∀ part ∈ modules, '<' ∉ part.toList) : '<' ∉ ("::".intercalate modules).toList := by
  induction modules with
  | nil =>
      rw [String.intercalate_nil]
      exact List.not_mem_nil
  | cons part others ih =>
      have first := plain part List.mem_cons_self
      have later := ih fun other among => plain other (List.mem_cons_of_mem part among)
      by_cases last : others = []
      · rwa [last, String.intercalate_singleton]
      · rw [String.intercalate_cons_of_ne_nil last, String.toList_append, String.toList_append,
          List.mem_append, List.mem_append]
        rintro ((early | colons) | late)
        · exact first early
        · exact absurd colons (by decide)
        · exact later late

theorem shortName_intercalate {modules : List String}
    (modulesPlain : ∀ part ∈ modules, '<' ∉ part.toList) (plain : Identifier name) :
    shortName ("::".intercalate (modules ++ [name])) = name := by
  by_cases bare : modules = []
  · rw [bare, List.nil_append, String.intercalate_singleton, shortName_of_identifier plain]
  · rw [String.intercalate_append_of_ne_nil bare (List.cons_ne_nil name []),
      String.intercalate_singleton]
    exact shortName_append_colons (bracket_notMem_intercalate modulesPlain) plain

/-- What names the methods of an implementation in the full name of a type declared in one of them: the
type and the trait in brackets, or the modules and then the implementation in brackets. -/
inductive QualifiedHead where
  | ofTrait (self trait : String)
  | ofImplementation (scope trait self : String) (plain : '<' ∉ scope.toList)

def QualifiedHead.text : QualifiedHead → String
  | ofTrait self trait => inBrackets (self ++ " as " ++ trait)
  | ofImplementation scope trait self _ =>
    scope ++ "::" ++ inBrackets ("impl " ++ trait ++ " for " ++ self)

def localName (head : QualifiedHead) (method name : String) (arguments : Option String) : String :=
  withArguments (head.text ++ ("::" ++ method ++ "::" ++ name)) arguments

theorem shortName_localName (head : QualifiedHead) (method name : String)
    (arguments : Option String) : shortName (localName head method name arguments) = "" := by
  rw [localName, shortName_withArguments]
  cases head with
  | ofTrait self trait =>
      have bracket := shortName_append_inBrackets "" (self ++ " as " ++ trait)
        ("::" ++ method ++ "::" ++ name)
      rw [String.empty_append] at bracket
      rw [QualifiedHead.text, bracket]
      exact shortName_of_identifier (by decide)
  | ofImplementation scope trait self plain =>
      have colons := shortName_append_colons plain (show Identifier "" by decide)
      rw [String.append_empty] at colons
      rw [QualifiedHead.text, shortName_append_inBrackets, colons]

end HostType

/-- The short name of a type with a plain path is the identifier at the end of the path: what the
modules before it are called and what the arguments behind it hold makes no difference. -/
theorem short_name_is_last_identifier {modules : List String} {name : String}
    (modulesPlain : ∀ part ∈ modules, HostType.Identifier part) (plain : HostType.Identifier name)
    (arguments : Option String) :
    HostType.shortName (HostType.fullName modules name arguments) = name := by
  rw [HostType.fullName, HostType.shortName_withArguments]
  exact HostType.shortName_intercalate (fun part among => (modulesPlain part among).2) plain

theorem short_name_of_nested_arguments :
    (∀ part ∈ ["std", "collections"], HostType.Identifier part) ∧ HostType.Identifier "HashMap" ∧
      HostType.fullName ["std", "collections"] "HashMap" (some "a::B<c::D>, <e::F as g::H>::I") =
        "std::collections::HashMap<a::B<c::D>, <e::F as g::H>::I>" ∧
      HostType.shortName "std::collections::HashMap<a::B<c::D>, <e::F as g::H>::I>" = "HashMap" := by
  have modules : ∀ part ∈ ["std", "collections"], HostType.Identifier part := by decide
  have name : HostType.Identifier "HashMap" := by decide
  have full : HostType.fullName ["std", "collections"] "HashMap"
      (some "a::B<c::D>, <e::F as g::H>::I") =
        "std::collections::HashMap<a::B<c::D>, <e::F as g::H>::I>" := by decide +kernel
  have short := short_name_is_last_identifier modules name (some "a::B<c::D>, <e::F as g::H>::I")
  rw [full] at short
  exact ⟨modules, name, full, short⟩

/-- A type declared in the body of a method has no short name, whatever it is called: a composite that
reports the short name is laid out without a type name, and native code reads an empty one. -/
theorem local_type_reported_without_name (head : HostType.QualifiedHead) (method name : String)
    (arguments : Option String) :
    HostType.shortName (HostType.localName head method name arguments) = "" ∧
      ∀ {fields : List Field} {platform : Platform} {layout : Layout} {start state : State}
        {placement : Placement},
        ((Layout.build (HostType.shortName (HostType.localName head method name arguments)) fields
          platform).run start).1 = .ok (.ok layout) → layout.Exportable →
        placement.Serves state.memory layout.blockSizes →
        layout.typeName = "" ∧
          ∃ address after metadata, (layout.toNative placement).run state = (.ok address, after) ∧
            Metadata.read? after.memory address = some metadata ∧
            after.memory.readTerminated? metadata.typeName = some [] := by
  have empty := HostType.shortName_localName head method name arguments
  refine ⟨empty, ?_⟩
  intro fields platform layout start state placement built exportable serves
  rw [empty] at built
  obtain ⟨few, described⟩ := Layout.describes_of_build built
  obtain ⟨address, memory, metadata, ran, exported⟩ :=
    Layout.run_toNative exportable.typeName exportable.names serves
  have seen := exported.readTerminated?_typeName
  rw [described.typeName] at seen
  exact ⟨described.typeName, address, _, metadata, ran, exported.read? (described.count ▸ few), seen⟩

theorem local_type_exported_without_name :
    ∃ layout, ((Layout.build (HostType.shortName "<app::Shape as app::Draw>::draw::Local")
        Sample.oneField .wide).run {}).1 = .ok (.ok layout) ∧
      ∃ address after metadata, (layout.toNative Memory.bump).run {} = (.ok address, after) ∧
        Metadata.read? after.memory address = some metadata ∧
        after.memory.readTerminated? metadata.typeName = some [] := by
  have full : HostType.localName (.ofTrait "app::Shape" "app::Draw") "draw" "Local" none =
      "<app::Shape as app::Draw>::draw::Local" := by decide +kernel
  have reported := local_type_reported_without_name (.ofTrait "app::Shape" "app::Draw") "draw" "Local"
    none
  rw [full] at reported
  have short : (Utf8.bytes (HostType.shortName "<app::Shape as app::Draw>::draw::Local")).length ≤
      64 := by
    rw [reported.1]
    decide
  obtain ⟨layout, built, exportable, serves⟩ := Sample.exists_layout_oneField short
  exact ⟨layout, built, (reported.2 built exportable serves).2⟩

/-- A type called `Local` in the body of a method is not reported as `Local`. -/
theorem local_type_not_reported_by_name :
    HostType.Identifier "draw" ∧ HostType.Identifier "Local" ∧
      HostType.localName (.ofTrait "app::Shape" "app::Draw") "draw" "Local" none =
        "<app::Shape as app::Draw>::draw::Local" ∧
      HostType.shortName "<app::Shape as app::Draw>::draw::Local" ≠ "Local" ∧
      HostType.localName (.ofImplementation "app" "core::Draw" "app::Shape" (by decide)) "draw" "Local"
          (some "i32") = "app::<impl core::Draw for app::Shape>::draw::Local<i32>" ∧
      HostType.shortName "app::<impl core::Draw for app::Shape>::draw::Local<i32>" ≠ "Local" := by
  decide +kernel

end Boundary
