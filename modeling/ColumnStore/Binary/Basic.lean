import ColumnStore.Text.Numeral

/-!
# Binary floating-point words

A `Format` says how many bits of a word hold the fraction and the exponent. A `Binary` number is
its word; `Binary.decode` gives the number the word stands for, either not a number, an infinity,
or a mantissa times a power of two. Numbers are compared through `Binary.key`, which orders the
words of one sign by size and puts both zeros at the same place.
-/

set_option autoImplicit false

namespace ColumnStore

/-- The layout of a binary floating-point word. -/
structure Format where
  fractionBits : Nat
  exponentBits : Nat
  deriving DecidableEq, Repr

namespace Format

/-- Words of 32 bits. -/
def single : Format := ⟨23, 8⟩

/-- Words of 64 bits. -/
def double : Format := ⟨52, 11⟩

/-- All bits of a word: sign, exponent and fraction. -/
def width (format : Format) : Nat :=
  1 + format.exponentBits + format.fractionBits

/-- The exponent of the last place of the smallest numbers. -/
def leastExponent (format : Format) : Int :=
  2 - (Nat.pow 2 (format.exponentBits - 1) : Nat) - format.fractionBits

/-- The word of positive infinity: every exponent bit set and no other. -/
def infinityWord (format : Format) : Nat :=
  (Nat.pow 2 format.exponentBits - 1) * Nat.pow 2 format.fractionBits

/-- The bit that holds the sign. -/
def signBit (format : Format) : Nat :=
  Nat.pow 2 (format.exponentBits + format.fractionBits)

end Format

/-- What a floating-point word stands for. -/
inductive Decoded where
  /-- Not a number. -/
  | nan
  /-- An infinity of either sign. -/
  | infinite (negative : Bool)
  /-- The number `mantissa * 2 ^ exponent`, or its negative. -/
  | finite (negative : Bool) (mantissa : Nat) (exponent : Int)
  deriving DecidableEq, Repr

/-- A floating-point number of the given format, as its word. -/
structure Binary (format : Format) where
  bits : BitVec format.width
  deriving DecidableEq

/-- Single-precision numbers. -/
abbrev Binary32 := Binary Format.single

/-- Double-precision numbers. -/
abbrev Binary64 := Binary Format.double

namespace Binary

variable {format : Format}

/-- The number with this word. -/
def ofWord (format : Format) (word : Nat) : Binary format :=
  ⟨BitVec.ofNat format.width word⟩

/-- The word without its sign. -/
def magnitude (x : Binary format) : Nat :=
  x.bits.toNat % format.signBit

/-- Is the sign bit set? -/
def isNegative (x : Binary format) : Bool :=
  format.signBit ≤ x.bits.toNat

/-- Is this word not a number? -/
def isNan (x : Binary format) : Bool :=
  format.infinityWord < x.magnitude

/-- The number with the given sign and the given word without sign. -/
def withSign (format : Format) (negative : Bool) (magnitude : Nat) : Binary format :=
  ofWord format (if negative then format.signBit + magnitude else magnitude)

/-- The infinity of the given sign. -/
def infinity (format : Format) (negative : Bool) : Binary format :=
  withSign format negative format.infinityWord

/-- One word that is not a number. -/
def nan (format : Format) : Binary format :=
  ofWord format (format.infinityWord + Nat.pow 2 (format.fractionBits - 1))

/-- The number a word stands for. -/
def decode (x : Binary format) : Decoded :=
  let field := x.magnitude / Nat.pow 2 format.fractionBits
  let fraction := x.magnitude % Nat.pow 2 format.fractionBits
  if x.isNan then .nan
  else if x.magnitude = format.infinityWord then .infinite x.isNegative
  else if field = 0 then .finite x.isNegative fraction format.leastExponent
  else
    .finite x.isNegative (Nat.pow 2 format.fractionBits + fraction)
      (format.leastExponent + ((field : Int) - 1))

/-- The place of a number in the order of all numbers; both zeros have place zero. -/
def key (x : Binary format) : Int :=
  Text.signed x.isNegative x.magnitude

/-- The order of two numbers; `none` if one is not a number. -/
def compare? (x y : Binary format) : Option Ordering :=
  if x.isNan || y.isNan then none else some (compare x.key y.key)

/-- Numeric equality: not a number differs from everything, and the two zeros are equal. -/
def equal (x y : Binary format) : Bool :=
  !x.isNan && !y.isNan && x.key == y.key

theorem equal_comm (x y : Binary format) : x.equal y = y.equal x := by
  unfold equal
  rw [show (x.key == y.key) = (y.key == x.key) from Bool.beq_comm]
  cases x.isNan <;> cases y.isNan <;> rfl

end Binary

end ColumnStore
