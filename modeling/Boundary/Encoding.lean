import Boundary.Ownership
import Boundary.Platform
import Boundary.Text.Utf8
import Boundary.Value

/-!
From values to records. Text is shown in place, scalars are copied bit by bit, and an object goes
out as a handle.
-/

namespace Boundary

def greatestLength : Nat := 0x7fffffff

def checkedLength (size : Nat) : Action Int32 :=
  if size ≤ greatestLength then pure (Int32.ofNat size) else .panic (.textTooLong size)

def encodePlatformInteger (platform : Platform) (value : Int64) : Action Record :=
  match platform with
  | .wide => pure (.scalar .int64 (.ofInt64 value))
  | .narrow =>
    if value.toInt32.toInt64 = value then
      pure (.scalar .int32 (.ofInt32 value.toInt32))
    else
      .panic (.integerTooWide value)

def encodeContents (platform : Platform) : Value → Action Record
  | .bool value => pure (.scalar .bool (.ofBool value))
  | .int value => encodePlatformInteger platform value
  | .int32 value => pure (.scalar .int32 (.ofInt32 value))
  | .int64 value => pure (.scalar .int64 (.ofInt64 value))
  | .float32 bits => pure (.scalar .float32 (.ofFloat32 bits))
  | .float64 bits => pure (.scalar .float64 (.ofFloat64 bits))
  | .string text => do
    let length ← checkedLength (Utf8.bytes text).length
    pure ⟨.string, .view text, length⟩
  | .object object => do
    let handle ← wrapObject object
    pure (.scalar .object (.ofAddress handle.number))
  | .handle handle => pure (.scalar .object (.ofAddress handle.number))

def pack (platform : Platform) (value : Value) : Action Record := do
  let record ← encodeContents platform value
  .emit (.packed value.kind record.tag)
  pure record

def packAll (platform : Platform) : List Value → Action (List Record)
  | [] => pure []
  | value :: rest => do
    let record ← pack platform value
    let records ← packAll platform rest
    pure (record :: records)

end Boundary
