import Boundary.Encoding
import Boundary.Error
import Boundary.HostType
import Boundary.Text.Lowercase

/-!
The layout of a composite: its members in declaration order, with their names in one run of bytes
where a zero byte follows each name. A member knows where its name starts and how long it is.
-/

namespace Boundary

/-- A field of a composite under its source name, which holds no zero character. This is asserted where
assertions are on, as they are here; without them such a name goes unnoticed. -/
structure Field where
  name : String
  type : HostType
  nulFree : '\x00' ∉ name.toList

namespace Field

def make (name : String) (type : HostType) : Except Panic Field :=
  if clean : '\x00' ∉ name.toList then .ok ⟨name, type, clean⟩ else .error (.fieldNameHasNul name)

def fold : List Char → List Char
  | [] => []
  | first :: rest => Text.lowerChar first ++ rest

def externalName (name : String) : String := String.ofList (fold name.toList)

end Field

structure Member where
  offset : Nat
  length : Nat
  tag : Tag
  index : Nat
  deriving DecidableEq

namespace Member

def isEmpty (member : Member) : Bool := member.length == 0

end Member

structure Layout where
  typeName : String
  names : List UInt8
  members : List Member
  deriving DecidableEq

namespace Layout

def memberName (layout : Layout) (member : Member) : String :=
  match Utf8.decode? ((layout.names.drop member.offset).take member.length) with
  | some text => String.ofList text
  | none => ""

def member? (layout : Layout) (name : String) : Option Member :=
  layout.members.find? fun member => layout.memberName member == name

def isEmpty (layout : Layout) : Bool := layout.members.isEmpty

structure Draft where
  names : List UInt8 := []
  members : List Member := []
  unmapped : List UnmappedField := []

namespace Draft

def add (owner : String) (platform : Platform) (draft : Draft) (field : Field) (index : Nat) :
    Action Draft :=
  match field.type.tag? platform with
  | none => do
    .emit (.unmappedField owner field.name field.type.name)
    pure { draft with unmapped := draft.unmapped ++ [⟨field.name, field.type.name⟩] }
  | some tag =>
    let name := Utf8.bytes (Field.externalName field.name)
    pure { draft with
      names := draft.names ++ name ++ [0]
      members := draft.members ++ [⟨draft.names.length, name.length, tag, index⟩] }

def addAll (owner : String) (platform : Platform) (draft : Draft) (index : Nat) :
    List Field → Action Draft
  | [] => pure draft
  | field :: rest => do
    let draft ← draft.add owner platform field index
    draft.addAll owner platform (index + 1) rest

end Draft

def plannedSize (fields : List Field) : Nat :=
  fields.foldr (fun field size => (Utf8.bytes (Field.externalName field.name)).length + 1 + size) 0

def build (typeName : String) (fields : List Field) (platform : Platform) :
    Action (Except Error Layout) := do
  if greatestLength < fields.length then
    .emit (.tooManyMembers typeName fields.length)
    pure (.error (.tooManyMembers typeName fields.length))
  else
    let draft ← Draft.addAll typeName platform {} 0 fields
    if !draft.unmapped.isEmpty then
      pure (.error (.unsupportedFields typeName draft.unmapped))
    else if draft.names.length ≠ plannedSize fields then
      .panic (.arenaMismatch draft.names.length (plannedSize fields))
    else
      .emit (.laidOut typeName draft.members.length draft.names.length)
      pure (.ok ⟨typeName, draft.names, draft.members⟩)

end Layout

structure Composite where
  typeName : String
  fields : List Field

namespace Composite

def layout (composite : Composite) (platform : Platform) : Action (Except Error Layout) :=
  Layout.build composite.typeName composite.fields platform

end Composite

def tagOfType (type : HostType) (platform : Platform) : Action (Except Error Tag) :=
  match type.tag? platform with
  | some tag => pure (.ok tag)
  | none => do
    .emit (.unmappedType type.name)
    pure (.error (.unsupportedType type.name))

end Boundary
