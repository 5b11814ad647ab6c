import ColumnStore.Binary.Rounding

/-!
# Fixed decimal places

A finite number is rounded to a fixed count of decimals, a tie going to the even neighbour. The
exact value of the number is rounded, so no digits are lost before.
-/

set_option autoImplicit false

namespace ColumnStore

/-- The text of `units / 10 ^ places`, with all places written. -/
def placesText (places units : Nat) : String :=
  let unit := Nat.pow 10 places
  toString (units / unit) ++ "." ++ Text.decimalDigits places (units % unit)

/-- The quotient of two numbers with a fixed count of decimals. -/
def ratioText (places num den : Nat) : String :=
  placesText places (roundHalfEven (num * Nat.pow 10 places) den)

/-- A number with a fixed count of decimals. -/
def Binary.fixedText {format : Format} (places : Nat) (x : Binary format) : String :=
  match x.decode with
  | .nan => "NaN"
  | .infinite negative => if negative then "-inf" else "inf"
  | .finite negative mantissa exponent =>
    (if negative then "-" else "")
      ++ ratioText places (mantissa * Nat.pow 2 exponent.toNat) (Nat.pow 2 (-exponent).toNat)

end ColumnStore
