import Boundary.Log.Level
import Boundary.Platform

/-!
The types of the managed side and the tags that some of them have. Resolution goes by the type itself,
never by its name or its shape: a type without a tag has an identity beside its name, and may have the
name of another.
-/

namespace Boundary

inductive HostType where
  | text
  | bool
  | int
  | int64
  | int32
  | float64
  | float32
  | any
  | other (identity : Nat) (name : String)
  deriving DecidableEq

namespace HostType

def name : HostType → String
  | text => "alloc::string::String"
  | bool => "bool"
  | int => "isize"
  | int64 => "i64"
  | int32 => "i32"
  | float64 => "f64"
  | float32 => "f32"
  | any => "tagbridge::value::Value"
  | other _ name => name

def tag? (platform : Platform) (type : HostType) : Option Tag :=
  if type = text then some .string
  else if type = bool then some .bool
  else if type = int then some platform.integerTag
  else if type = int64 then some .int64
  else if type = int32 then some .int32
  else if type = float64 then some .float64
  else if type = float32 then some .float32
  else if type = any then some .any
  else none

def debugText (type : HostType) : String := "TypeDesc(" ++ type.name ++ ")"

def head (path : List Char) : List Char := path.takeWhile (· != '<')

def afterColons? : List Char → Option (List Char)
  | ':' :: ':' :: rest => some rest
  | _ => none

def lastSegment (segment : List Char) : List Char → List Char
  | [] => segment
  | char :: rest => lastSegment ((afterColons? (char :: rest)).getD segment) rest

def shortName (path : String) : String :=
  let base := head path.toList
  String.ofList (lastSegment base base)

end HostType

end Boundary
