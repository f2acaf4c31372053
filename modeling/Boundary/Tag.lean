/-!
The tag of a record says what its payload holds. Both sides of the boundary keep the same table of
ordinals; an ordinal outside it belongs to no tag.
-/

namespace Boundary

inductive Tag where
  | invalid
  | bool
  | int32
  | int64
  | float32
  | float64
  | string
  | object
  | any
  | ownedHandle
  deriving DecidableEq

namespace Tag

def all : List Tag :=
  [invalid, bool, int32, int64, float32, float64, string, object, any, ownedHandle]

def ordinal : Tag → Int32
  | invalid => 0
  | bool => 1
  | int32 => 2
  | int64 => 3
  | float32 => 4
  | float64 => 5
  | string => 6
  | object => 7
  | any => 8
  | ownedHandle => 9

def ofOrdinal? (raw : Int32) : Option Tag :=
  all.find? fun tag => tag.ordinal == raw

def label : Tag → String
  | invalid => "invalid"
  | bool => "bool"
  | int32 => "int32"
  | int64 => "int64"
  | float32 => "float32"
  | float64 => "float64"
  | string => "string"
  | object => "object"
  | any => "any"
  | ownedHandle => "owned handle"

def name : Tag → String
  | invalid => "Invalid"
  | bool => "Bool"
  | int32 => "Int32"
  | int64 => "Int64"
  | float32 => "Float32"
  | float64 => "Float64"
  | string => "String"
  | object => "Object"
  | any => "Any"
  | ownedHandle => "OwnedHandleReturn"

def payloadSize : Tag → Nat
  | invalid => 0
  | bool => 1
  | int32 | float32 => 4
  | int64 | float64 | string | object | any | ownedHandle => 8

def isScalar : Tag → Bool
  | bool | int32 | int64 | float32 | float64 => true
  | _ => false

def isPointer : Tag → Bool
  | string | object | any | ownedHandle => true
  | _ => false

theorem mem_all (tag : Tag) : tag ∈ all := by
  cases tag <;> decide

theorem ordinal_injective {left right : Tag} (same : left.ordinal = right.ordinal) :
    left = right := by
  revert same
  cases left <;> cases right <;> decide

theorem ofOrdinal?_eq_some_iff (raw : Int32) (tag : Tag) :
    ofOrdinal? raw = some tag ↔ tag.ordinal = raw := by
  constructor
  · intro found
    simpa using List.find?_some found
  · intro same
    subst raw
    cases tag <;> decide

@[simp] theorem ofOrdinal?_ordinal (tag : Tag) : ofOrdinal? tag.ordinal = some tag :=
  (ofOrdinal?_eq_some_iff _ _).2 rfl

theorem payloadSize_le (tag : Tag) : tag.payloadSize ≤ 8 := by
  cases tag <;> decide

end Tag

end Boundary
