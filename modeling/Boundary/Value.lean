import Boundary.Handle
import Boundary.Ieee
import Boundary.Object

/-!
The values that cross the boundary: scalars, text, managed objects, and handles obtained earlier.
-/

namespace Boundary

/-- Numbers keep their bits; `int` is the integer of the platform's width. -/
inductive Value where
  | bool (value : Bool)
  | int (value : Int64)
  | int32 (value : Int32)
  | int64 (value : Int64)
  | float32 (bits : UInt32)
  | float64 (bits : UInt64)
  | string (text : String)
  | object (object : Object)
  | handle (handle : Handle)
  deriving DecidableEq

namespace Value

def kind : Value → String
  | bool _ => "bool"
  | int _ => "int"
  | int32 _ => "int32"
  | int64 _ => "int64"
  | float32 _ => "float32"
  | float64 _ => "float64"
  | string _ => "string"
  | object _ => "object"
  | handle _ => "handle"

def needsWrap : Value → Bool
  | object _ => true
  | _ => false

def text? : Value → Option String
  | string text => some text
  | _ => none

def object? : Value → Option Object
  | object target => some target
  | _ => none

/-- Values of different kinds differ; floats compare as numbers and objects by identity. -/
def equal : Value → Value → Bool
  | bool left, bool right => left == right
  | int left, int right => left == right
  | int32 left, int32 right => left == right
  | int64 left, int64 right => left == right
  | float32 left, float32 right => FloatFormat.single.equal left.toNat right.toNat
  | float64 left, float64 right => FloatFormat.double.equal left.toNat right.toNat
  | string left, string right => left == right
  | object left, object right => left.same right
  | handle left, handle right => left == right
  | _, _ => false

end Value

end Boundary
