import Boundary.Tag

/-!
The width of the native integer. A native integer type is wide when it can hold the first number
past the signed 32-bit range; a wide integer crosses as a 64-bit one, a narrow one as a 32-bit one.
-/

namespace Boundary

structure IntegerType where
  signed : Bool
  bits : Nat
  deriving DecidableEq

namespace IntegerType

def least (type : IntegerType) : Int :=
  if type.signed then -Int.ofNat (1 <<< (type.bits - 1)) else 0

def greatest (type : IntegerType) : Int :=
  Int.ofNat (1 <<< if type.signed then type.bits - 1 else type.bits) - 1

def holds (type : IntegerType) (value : Int) : Bool :=
  decide (type.least ≤ value) && decide (value ≤ type.greatest)

def widerThanInt32 (type : IntegerType) : Bool := type.holds 0x80000000

def host : IntegerType := ⟨true, 64⟩

end IntegerType

inductive Platform where
  | narrow
  | wide
  deriving DecidableEq

namespace Platform

def probe (type : IntegerType) : Platform :=
  if type.widerThanInt32 then wide else narrow

def current : Platform := probe .host

def isWide : Platform → Bool
  | narrow => false
  | wide => true

def integerTag : Platform → Tag
  | narrow => .int32
  | wide => .int64

end Platform

end Boundary
