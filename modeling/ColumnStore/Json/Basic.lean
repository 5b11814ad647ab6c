import ColumnStore.Binary.Arithmetic

/-!
# JSON values

A `Json` value is what a JSON text denotes, with two things left open: a number keeps its written
form, and a text whose escapes denote no characters has no content. `Json.isSound` says that
nothing in a value is left open: every number lies in the range of double precision, every text has
content, and arrays and objects are nested at most `Json.nestingLimit` deep.
-/

set_option autoImplicit false

namespace ColumnStore

/-- A number as it is written. -/
structure Numeral where
  negative : Bool
  whole : List Char
  /-- The digits behind the point; empty if there is no point. -/
  fraction : List Char
  /-- The sign and the digits of the exponent. -/
  exponent : Option (Bool × List Char)
  deriving DecidableEq

/-- What a number denotes: a whole number of at most 64 bits, or a double-precision number. -/
inductive Quantity where
  | whole (n : Int)
  | real (x : Binary64)
  deriving DecidableEq

namespace Numeral

/-- The greatest number of decimal places that a power of ten may have. -/
def greatestPower : Nat := 308

/-- The greatest number of 64 bits. -/
def greatestWord : Nat := 18446744073709551615

/-- The size of the least number of 64 bits with a sign. -/
def greatestNegative : Nat := 9223372036854775808

/-- Takes digits into a number of 64 bits as long as they fit, and counts the digits left over.
-/
def absorb (significand : Nat) : List Char → Nat × Nat
  | [] => (significand, 0)
  | c :: rest =>
    let next := 10 * significand + Text.digitValue c
    if next ≤ greatestWord then absorb next rest else (significand, rest.length + 1)

/-- A number times a power of ten, if the product is finite. -/
def scaleUp (x : Binary64) (power : Nat) : Option Binary64 :=
  if x.isZero then some x
  else if greatestPower < power then none
  else
    let product := x.multiply (.tenTo .double power)
    if product.isInfinite then none else some product

/-- A number divided by a power of ten, which is taken in steps of `10 ^ greatestPower`. Two full
steps bring every number of 64 bits to zero. -/
def scaleDown : Nat → Binary64 → Nat → Binary64
  | 0, x, _ => x
  | steps + 1, x, power =>
    if power ≤ greatestPower then x.divide (.tenTo .double power)
    else scaleDown steps (x.divide (.tenTo .double greatestPower)) (power - greatestPower)

/-- The double-precision number `significand * 10 ^ power`, rounded at each step, unless it is too
large. -/
def scaled (significand : Nat) (power : Int) : Option Binary64 :=
  let x := Binary.ofInt .double significand
  if 0 ≤ power then scaleUp x power.toNat else some (scaleDown 3 x (-power).toNat)

/-- The double-precision number that a numeral denotes, unless it is too large. -/
def real? (numeral : Numeral) : Option Binary64 :=
  let (front, wholeLeft) := absorb 0 numeral.whole
  let (significand, fractionLeft) := absorb front numeral.fraction
  let power : Int := wholeLeft + fractionLeft - numeral.fraction.length
  let shift : Int := match numeral.exponent with
    | some (negative, digits) => Text.signed negative (Text.natOfDigits digits)
    | none => 0
  (scaled significand (power + shift)).map fun x ↦ if numeral.negative then x.negate else x

/-- What a numeral denotes. A whole number that fits in 64 bits stays one, but for minus zero. -/
def value? (numeral : Numeral) : Option Quantity :=
  let n := Text.natOfDigits numeral.whole
  let isWhole := numeral.fraction.isEmpty && numeral.exponent.isNone
  if isWhole && !numeral.negative && n ≤ greatestWord then some (.whole n)
  else if isWhole && numeral.negative && n ≠ 0 && n ≤ greatestNegative then some (.whole (-n))
  else numeral.real?.map .real

end Numeral

/-- What a JSON text denotes. -/
inductive Json where
  | null
  | boolean (b : Bool)
  | number (numeral : Numeral)
  /-- A text; it has no content if an escape in it is half of a surrogate pair. -/
  | text (content : Option String)
  | array (items : List Json)
  | object (members : List (Option String × Json))
  deriving Inhabited

namespace Json

/-- How many arrays and objects may lie within each other. -/
def nestingLimit : Nat := 127

mutual

/-- Is everything in a value determined, and are arrays and objects nested at most `limit` deep? -/
def isSound (limit : Nat) : Json → Bool
  | null => true
  | boolean _ => true
  | number numeral => numeral.value?.isSome
  | text content => content.isSome
  | array items => 0 < limit && areSound (limit - 1) items
  | object members => 0 < limit && membersAreSound (limit - 1) members

/-- Are all items of an array sound? -/
def areSound (limit : Nat) : List Json → Bool
  | [] => true
  | item :: rest => isSound limit item && areSound limit rest

/-- Are all members of an object sound? -/
def membersAreSound (limit : Nat) : List (Option String × Json) → Bool
  | [] => true
  | (key, item) :: rest => key.isSome && isSound limit item && membersAreSound limit rest

end

end Json

end ColumnStore
