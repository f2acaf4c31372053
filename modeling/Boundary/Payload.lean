import Boundary.Bytes

/-!
The payload of a record: eight bytes, least significant first. A narrow value fills the low bytes
and leaves the rest zero; reading looks only at the bytes of its width.
-/

namespace Boundary

abbrev Address := Nat

structure Payload where
  bytes : List UInt8
  length_bytes : bytes.length = 8
  deriving DecidableEq

namespace Payload

def ofNat (width value : Nat) (fits : width ≤ 8) : Payload where
  bytes := Bytes.littleEndian width value ++ List.replicate (8 - width) 0
  length_bytes := by simp; omega

def zero : Payload := ofNat 0 0 (by decide)

def ofBool (value : Bool) : Payload := ofNat 1 value.toNat (by decide)

def ofInt32 (value : Int32) : Payload := ofNat 4 value.toUInt32.toNat (by decide)

def ofInt64 (value : Int64) : Payload := ofNat 8 value.toUInt64.toNat (by decide)

def ofFloat32 (bits : UInt32) : Payload := ofNat 4 bits.toNat (by decide)

def ofFloat64 (bits : UInt64) : Payload := ofNat 8 bits.toNat (by decide)

def ofAddress (address : Address) : Payload := ofNat 8 address (by decide)

def ofBytes? (bytes : List UInt8) : Option Payload :=
  if exact : bytes.length = 8 then some ⟨bytes, exact⟩ else none

def toNat (width : Nat) (payload : Payload) : Nat :=
  Bytes.toNat (payload.bytes.take width)

def toBool (payload : Payload) : Bool := payload.toNat 1 != 0

def toInt32 (payload : Payload) : Int32 := (UInt32.ofNat (payload.toNat 4)).toInt32

def toInt64 (payload : Payload) : Int64 := (UInt64.ofNat (payload.toNat 8)).toInt64

def toFloat32 (payload : Payload) : UInt32 := UInt32.ofNat (payload.toNat 4)

def toFloat64 (payload : Payload) : UInt64 := UInt64.ofNat (payload.toNat 8)

def toAddress (payload : Payload) : Address := payload.toNat 8

theorem toNat_ofNat (width value : Nat) (fits : width ≤ 8) :
    (ofNat width value fits).toNat width = value % Bytes.capacity width := by
  simp [toNat, ofNat, Bytes.toNat_littleEndian]

def debugText : String := "Payload \x7b ... \x7d"

end Payload

end Boundary
