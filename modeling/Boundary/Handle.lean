import Boundary.Payload

/-!
Handles: what native code holds in place of an object. A handle is a nonzero machine word.
-/

namespace Boundary

structure Handle where
  number : Nat
  positive : 0 < number
  inRange : number < UInt64.size
  deriving DecidableEq

namespace Handle

theorem ext_number {left right : Handle} (same : left.number = right.number) : left = right := by
  cases left
  cases right
  cases same
  rfl

def first : Handle := ⟨1, by decide, by decide⟩

def next? (handle : Handle) : Option Handle :=
  if bound : handle.number + 1 < UInt64.size then
    some ⟨handle.number + 1, Nat.succ_pos _, bound⟩
  else
    none

def ofAddress? (address : Address) : Option Handle :=
  if valid : 0 < address ∧ address < UInt64.size then some ⟨address, valid.1, valid.2⟩ else none

def debugText (handle : Handle) : String :=
  "Handle(0x" ++ String.ofList (Nat.toDigits 16 handle.number) ++ ")"

end Handle

end Boundary
