import ColumnStore.Binary.Rounding

/-!
# Reading floating-point numbers

A literal is an optional sign followed by `inf`, `infinity` or `nan` in any case, or by digits with
an optional point and an optional exponent; there is at least one digit beside the point. Its value
is rounded once, to the nearest number of the format, however many digits are written.
-/

set_option autoImplicit false

namespace ColumnStore

/-- The parts of a decimal number: the digits before and after the point and the written exponent.
-/
structure DecimalParts where
  whole : List Char
  fraction : List Char
  exponent : Int
  deriving DecidableEq

namespace DecimalParts

/-- The number is `digits * 10 ^ power`. -/
def digits (parts : DecimalParts) : Nat :=
  Text.natOfDigits (parts.whole ++ parts.fraction)

/-- The power of ten that scales the digits. -/
def power (parts : DecimalParts) : Int :=
  parts.exponent - parts.fraction.length

/-- Reads the exponent behind an `e`, which needs at least one digit. -/
def readExponent : List Char → Option Int
  | [] => some 0
  | c :: rest => if c = 'e' ∨ c = 'E' then Text.readInteger rest else none

/-- Reads digits with an optional point and an optional exponent. -/
def read (cs : List Char) : Option DecimalParts :=
  let whole := cs.takeWhile Char.isDigit
  let rest := cs.dropWhile Char.isDigit
  let (fraction, tail) := match rest with
    | '.' :: more => (more.takeWhile Char.isDigit, more.dropWhile Char.isDigit)
    | _ => ([], rest)
  if whole.isEmpty && fraction.isEmpty then none
  else (readExponent tail).map fun exponent ↦ ⟨whole, fraction, exponent⟩

end DecimalParts

namespace Binary

/-- The number nearest to `digits * 10 ^ power`. Far outside the range of every format the result
is infinite or zero, and the power is not worked out. -/
def ofDecimal (format : Format) (negative : Bool) (digits : Nat) (power : Int) : Binary format :=
  let size : Int := power + (Nat.toDigits 10 digits).length
  if digits = 0 ∨ size < -400 then withSign format negative 0
  else if 400 < size then infinity format negative
  else ofRatio format negative (digits * Nat.pow 10 power.toNat) (Nat.pow 10 (-power).toNat)

/-- Reads a floating-point literal. -/
def read (format : Format) (cs : List Char) : Option (Binary format) :=
  let (negative, rest) := Text.takeSign cs
  let word := String.ofList (rest.map Char.toLower)
  if word = "inf" ∨ word = "infinity" then some (infinity format negative)
  else if word = "nan" then some (nan format)
  else (DecimalParts.read rest).map fun parts ↦
    ofDecimal format negative parts.digits parts.power

end Binary

end ColumnStore
