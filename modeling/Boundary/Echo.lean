import Boundary.Bridge

/-!
What obliging native code hands back for encoded records: text in a buffer of its own, objects as
owned handles, and everything else unchanged.
-/

namespace Boundary

def echoRecord (placement : Placement) (record : Record) : Action NativeRecord := do
  match record.contents with
  | .view text =>
    let bytes := Utf8.bytes text
    let address ← supply placement bytes.length bytes
    pure ⟨record.tag.ordinal, .ofAddress address, record.length⟩
  | .payload payload =>
    let tag := if record.tag = .object then Tag.ownedHandle else record.tag
    pure ⟨tag.ordinal, payload, record.length⟩

def echoAll (placement : Placement) : List Record → Action (List NativeRecord)
  | [] => pure []
  | record :: rest => do
    let answer ← echoRecord placement record
    let answers ← echoAll placement rest
    pure (answer :: answers)

namespace Bridge

def roundTrip (bridge : Bridge) (placement : Placement) (thread : Thread) (values : List Value) :
    Action (List (Option Value)) := do
  let records ← bridge.packAll thread values
  let answers ← echoAll placement records
  unpackAll answers

end Bridge

end Boundary
