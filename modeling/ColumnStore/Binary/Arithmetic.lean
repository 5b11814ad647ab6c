import ColumnStore.Binary.Rounding

/-!
# Products and quotients of floating-point numbers

Each operation takes the exact result and rounds it once. Only finite numbers are multiplied and
divided here; any other operand is handed back.
-/

set_option autoImplicit false

namespace ColumnStore

namespace Binary

variable {format : Format}

/-- Is the number a zero of either sign? -/
def isZero (x : Binary format) : Bool :=
  x.magnitude == 0

/-- Is the number an infinity of either sign? -/
def isInfinite (x : Binary format) : Bool :=
  x.magnitude == format.infinityWord

/-- The number of the other sign. -/
def negate (x : Binary format) : Binary format :=
  withSign format (!x.isNegative) x.magnitude

/-- The product of two finite numbers. -/
def multiply (x y : Binary format) : Binary format :=
  match x.decode, y.decode with
  | .finite negative mantissa exponent, .finite otherNegative otherMantissa otherExponent =>
    let power := exponent + otherExponent
    ofRatio format (negative != otherNegative) (mantissa * otherMantissa * Nat.pow 2 power.toNat)
      (Nat.pow 2 (-power).toNat)
  | _, _ => x

/-- The quotient of two finite numbers, the second one not zero. -/
def divide (x y : Binary format) : Binary format :=
  match x.decode, y.decode with
  | .finite negative mantissa exponent, .finite otherNegative otherMantissa otherExponent =>
    let power := exponent - otherExponent
    ofRatio format (negative != otherNegative) (mantissa * Nat.pow 2 power.toNat)
      (otherMantissa * Nat.pow 2 (-power).toNat)
  | _, _ => x

/-- The number nearest to a power of ten. -/
def tenTo (format : Format) (power : Nat) : Binary format :=
  ofRatio format false (Nat.pow 10 power) 1

end Binary

end ColumnStore
