/-!
What setting up the boundary can fail with, and the wording of each failure.
-/

namespace Boundary

structure UnmappedField where
  field : String
  typeName : String
  deriving DecidableEq

namespace UnmappedField

def message (field : UnmappedField) : String :=
  "'" ++ field.field ++ "' (" ++ field.typeName ++ ")"

end UnmappedField

inductive Error where
  | unsupportedType (typeName : String)
  | unsupportedFields (owner : String) (fields : List UnmappedField)
  | tooManyMembers (owner : String) (count : Nat)
  | configAccess (path source : String)
  | configSyntax
  | configUnwritable
  deriving DecidableEq

namespace Error

def message : Error → String
  | unsupportedType typeName => "type not supported across the boundary: " ++ typeName
  | unsupportedFields owner fields =>
    owner ++ " has fields with unsupported types: " ++
      ", ".intercalate (fields.map UnmappedField.message)
  | tooManyMembers owner count =>
    s!"{owner} has {count} members, more than native metadata can describe"
  | configAccess path source => "failed to access config " ++ path ++ ": " ++ source
  | configSyntax => "failed to parse config"
  | configUnwritable => "failed to serialize config"

def fields : Error → List UnmappedField
  | unsupportedFields _ fields => fields
  | _ => []

end Error

end Boundary
