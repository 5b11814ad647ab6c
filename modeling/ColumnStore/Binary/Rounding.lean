import ColumnStore.Binary.Basic

/-!
# Rounding to the nearest floating-point number

`roundHalfEven` rounds a quotient of two numbers to the nearest whole number, a tie going to the
even one. `Format.roundRatio` does the same on the grid of a floating-point format: it finds the
last place of the quotient, rounds the quotient counted in that place, and puts the word together.
A result above the largest finite number becomes infinite.
-/

set_option autoImplicit false

namespace ColumnStore

/-- The whole number nearest to `num / den`; a tie goes to the even neighbour. -/
def roundHalfEven (num den : Nat) : Nat :=
  let quotient := num / den
  let rest := num % den
  if den < 2 * rest ∨ (2 * rest = den ∧ quotient % 2 = 1) then quotient + 1 else quotient

namespace Format

/-- The numerator and denominator of `num / den / 2 ^ exponent`. -/
def scaleDown (num den : Nat) (exponent : Int) : Nat × Nat :=
  (num * Nat.pow 2 (-exponent).toNat, den * Nat.pow 2 exponent.toNat)

/-- The exponent of the last place of the number nearest to `num / den`. -/
def lastPlace (format : Format) (num den : Nat) : Int :=
  let guess : Int := (num.log2 : Int) - den.log2 - format.fractionBits
  let scaled := scaleDown num den guess
  let exponent := if Nat.pow 2 format.fractionBits ≤ scaled.1 / scaled.2 then guess else guess - 1
  max exponent format.leastExponent

/-- The word without sign of the number nearest to `num / den`. -/
def roundRatio (format : Format) (num den : Nat) : Nat :=
  if num = 0 then 0
  else
    let exponent := format.lastPlace num den
    let scaled := scaleDown num den exponent
    let word := (exponent - format.leastExponent).toNat * Nat.pow 2 format.fractionBits
      + roundHalfEven scaled.1 scaled.2
    min word format.infinityWord

end Format

namespace Binary

/-- The number nearest to `num / den`, with the given sign. -/
def ofRatio (format : Format) (negative : Bool) (num den : Nat) : Binary format :=
  withSign format negative (format.roundRatio num den)

/-- The number nearest to a whole number. -/
def ofInt (format : Format) (n : Int) : Binary format :=
  ofRatio format (decide (n < 0)) n.natAbs 1

/-- The number nearest to another number, as in a change of format. -/
def convert {format : Format} (target : Format) (x : Binary format) : Binary target :=
  match x.decode with
  | .nan => nan target
  | .infinite negative => infinity target negative
  | .finite negative mantissa exponent =>
    ofRatio target negative (mantissa * Nat.pow 2 exponent.toNat) (Nat.pow 2 (-exponent).toNat)

end Binary

/-- The rounded quotient is at most half a unit away. -/
theorem roundHalfEven_near {num den : Nat} (hden : 0 < den) :
    2 * num ≤ (2 * roundHalfEven num den + 1) * den ∧
      2 * roundHalfEven num den * den ≤ 2 * num + den := by
  have hdiv := Nat.div_add_mod num den
  have hmod := Nat.mod_lt num hden
  simp only [roundHalfEven]
  generalize num / den = quotient at *
  generalize num % den = rest at *
  subst hdiv
  have hcomm : quotient * den = den * quotient := Nat.mul_comm quotient den
  split <;> simp only [Nat.add_mul, Nat.mul_add, Nat.mul_assoc, hcomm, Nat.one_mul, Nat.mul_one]
    <;> constructor <;> omega

end ColumnStore
