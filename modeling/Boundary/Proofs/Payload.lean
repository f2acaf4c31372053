import Boundary.Handle

/-!
A payload gives back what was put into it, bit by bit.
-/

namespace Boundary

@[simp] theorem Handle.ofAddress?_number (handle : Handle) :
    ofAddress? handle.number = some handle := by
  rw [ofAddress?, dif_pos ⟨handle.positive, handle.inRange⟩]

namespace Payload

theorem toNat_ofNat_of_lt {width value : Nat} (fits : width ≤ 8)
    (small : value < Bytes.capacity width) : (ofNat width value fits).toNat width = value := by
  rw [toNat_ofNat]
  exact Nat.mod_eq_of_lt small

@[simp] theorem toBool_ofBool (value : Bool) : (ofBool value).toBool = value := by
  have small : value.toNat < Bytes.capacity 1 := by cases value <;> decide
  rw [toBool, ofBool, toNat_ofNat_of_lt _ small]
  cases value <;> rfl

@[simp] theorem toInt32_ofInt32 (value : Int32) : (ofInt32 value).toInt32 = value := by
  rw [toInt32, ofInt32, toNat_ofNat_of_lt _ value.toUInt32.toNat_lt, UInt32.ofNat_toNat]
  rfl

@[simp] theorem toInt64_ofInt64 (value : Int64) : (ofInt64 value).toInt64 = value := by
  rw [toInt64, ofInt64, toNat_ofNat_of_lt _ value.toUInt64.toNat_lt, UInt64.ofNat_toNat]
  rfl

@[simp] theorem toFloat32_ofFloat32 (bits : UInt32) : (ofFloat32 bits).toFloat32 = bits := by
  rw [toFloat32, ofFloat32, toNat_ofNat_of_lt _ bits.toNat_lt, UInt32.ofNat_toNat]

@[simp] theorem toFloat64_ofFloat64 (bits : UInt64) : (ofFloat64 bits).toFloat64 = bits := by
  rw [toFloat64, ofFloat64, toNat_ofNat_of_lt _ bits.toNat_lt, UInt64.ofNat_toNat]

theorem toAddress_ofAddress {address : Address} (small : address < UInt64.size) :
    (ofAddress address).toAddress = address := by
  rw [toAddress, ofAddress, toNat_ofNat_of_lt _ small]

@[simp] theorem toAddress_ofHandle (handle : Handle) :
    (ofAddress handle.number).toAddress = handle.number :=
  toAddress_ofAddress handle.inRange

end Payload

end Boundary
