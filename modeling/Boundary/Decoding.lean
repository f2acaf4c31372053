import Boundary.Ownership
import Boundary.Record
import Boundary.Text.Utf8
import Boundary.Value

/-!
From native records to values. The tag alone decides how the payload is read. A text buffer is
copied and then released, once; a tag that native code must not send ends the process.
-/

namespace Boundary

def bufferBytes (address : Address) (length : Int32) : Action (List UInt8) := do
  if length < 0 then
    .panic (.negativeLength length)
  else if address = 0 ∧ length ≠ 0 then
    .panic (.nullBuffer length)
  else
    let count := length.toInt.toNat
    match (← .get).memory.read? address count with
    | some bytes => pure bytes
    | none => .halt (.fault address count)

def decodeText (length : Int32) (bytes : List UInt8) : Action String :=
  match Utf8.decode? bytes with
  | some text => pure (String.ofList text)
  | none => do
    .emit (.repaired length)
    pure (String.ofList (Utf8.repair bytes))

def freeBlock (address : Address) : Action Unit :=
  .modify fun state => { state with memory := state.memory.free address }

def unpackText (address : Address) (length : Int32) : Action String := do
  let bytes ← bufferBytes address length
  let text ← decodeText length bytes
  freeBlock address
  pure text

def unpackHandle (address : Address) : Action Object := do
  match Handle.ofAddress? address with
  | none => .abort .nullHandle
  | some handle =>
    match ← resolveHandle handle with
    | some object => pure object
    | none => .abort .strayHandle

def unpackAs (record : NativeRecord) : Tag → Action (Option Value)
  | .invalid => pure none
  | .bool => pure (some (.bool record.payload.toBool))
  | .int32 => pure (some (.int32 record.payload.toInt32))
  | .int64 => pure (some (.int64 record.payload.toInt64))
  | .float32 => pure (some (.float32 record.payload.toFloat32))
  | .float64 => pure (some (.float64 record.payload.toFloat64))
  | .string => do
    let text ← unpackText record.payload.toAddress record.length
    pure (some (.string text))
  | .ownedHandle => do
    let object ← unpackHandle record.payload.toAddress
    pure (some (.object object))
  | .object | .any => .abort (.unsupportedTag record.raw)

def unpack (record : NativeRecord) : Action (Option Value) := do
  match record.tag? with
  | none => .abort (.unsupportedTag record.raw)
  | some tag =>
    .emit (.unpacking tag record.length)
    unpackAs record tag

def dropValue : Option Value → Action Unit
  | some (.object object) => dropObject object
  | _ => pure ()

/-- The values of a list of records. A panic at one record lets go of the values before it. -/
def unpackAll : List NativeRecord → Action (List (Option Value))
  | [] => pure []
  | record :: rest => do
    let value ← unpack record
    let values ← (unpackAll rest).orCleanUp (dropValue value)
    pure (value :: values)

end Boundary
