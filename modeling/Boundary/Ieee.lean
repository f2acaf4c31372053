/-!
Equality of floating-point numbers given by their bit patterns: not-a-number differs from every
number, itself included, and the two zeros are equal.
-/

namespace Boundary

structure FloatFormat where
  exponentBits : Nat
  fractionBits : Nat

namespace FloatFormat

def single : FloatFormat := ⟨8, 23⟩

def double : FloatFormat := ⟨11, 52⟩

def magnitude (format : FloatFormat) (bits : Nat) : Nat :=
  bits % (1 <<< (format.exponentBits + format.fractionBits))

def infinity (format : FloatFormat) : Nat :=
  (1 <<< format.exponentBits - 1) <<< format.fractionBits

def isNaN (format : FloatFormat) (bits : Nat) : Bool :=
  decide (format.infinity < format.magnitude bits)

def equal (format : FloatFormat) (left right : Nat) : Bool :=
  !format.isNaN left && !format.isNaN right &&
    (left == right || (format.magnitude left == 0 && format.magnitude right == 0))

end FloatFormat

end Boundary
