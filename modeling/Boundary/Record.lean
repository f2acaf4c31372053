import Boundary.Payload
import Boundary.Tag

/-!
The records that cross the boundary. An encoded record leaves the managed side; a native record
comes back and may hold any tag, payload and length.
-/

namespace Boundary

/-- An encoded record carries its payload, or shows the bytes of a managed text in place. -/
inductive Contents where
  | payload (payload : Payload)
  | view (text : String)
  deriving DecidableEq

structure Record where
  tag : Tag
  contents : Contents
  length : Int32
  deriving DecidableEq

structure NativeRecord where
  raw : Int32
  payload : Payload
  length : Int32
  deriving DecidableEq

def Tag.debugText : Option Tag → String
  | some tag => "Some(" ++ tag.name ++ ")"
  | none => "None"

def recordDebugText (tag : Option Tag) (length : Int32) : String :=
  "DataValue \x7b data_type: " ++ Tag.debugText tag ++ ", len: " ++ toString length.toInt ++
    ", .. \x7d"

namespace Record

def scalar (tag : Tag) (payload : Payload) : Record := ⟨tag, .payload payload, 0⟩

def debugText (record : Record) : String := recordDebugText (some record.tag) record.length

end Record

namespace NativeRecord

def invalid : NativeRecord := ⟨Tag.invalid.ordinal, .zero, 0⟩

def tag? (record : NativeRecord) : Option Tag := Tag.ofOrdinal? record.raw

def debugText (record : NativeRecord) : String :=
  "NativeValue(" ++ recordDebugText record.tag? record.length ++ ")"

end NativeRecord

end Boundary
