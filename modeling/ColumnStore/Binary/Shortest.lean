import ColumnStore.Binary.Basic

/-!
# The fewest digits that read back

`shortestDigits` finds the decimal number with the fewest digits that lies among the numbers that
round to a given floating-point number. For one digit, two digits and so on it tests the two
neighbours of the number on that decimal grid; the first grid with a hit wins and of two hits the
nearer. `NumberStyle` holds what a printer decides beyond the digits.
-/

set_option autoImplicit false

namespace ColumnStore

/-- The decimal number `digits * 10 ^ power`. -/
structure Scientific where
  digits : Nat
  power : Int
  deriving DecidableEq, Repr

/-- The numbers that round to one floating-point number. All three bounds share one denominator,
and the ends belong to the interval when `closed` holds. -/
structure RoundingInterval where
  low : Nat
  value : Nat
  high : Nat
  den : Nat
  closed : Bool
  deriving Repr

namespace RoundingInterval

/-- The interval of the number `mantissa * 2 ^ exponent`. Below a power of two the numbers lie
twice as close, so there the lower end is nearer. -/
def of (format : Format) (mantissa : Nat) (exponent : Int) : RoundingInterval :=
  let isPower := mantissa = Nat.pow 2 format.fractionBits ∧ format.leastExponent < exponent
  let scale := Nat.pow 2 (exponent - 2).toNat
  { low := (4 * mantissa - (if isPower then 1 else 2)) * scale
    value := 4 * mantissa * scale
    high := (4 * mantissa + 2) * scale
    den := Nat.pow 2 (2 - exponent).toNat
    closed := mantissa % 2 = 0 }

/-- Is `digits * 10 ^ power` in the interval? -/
def holds (interval : RoundingInterval) (candidate : Scientific) : Bool :=
  let point := candidate.digits * Nat.pow 10 candidate.power.toNat * interval.den
  let scale := Nat.pow 10 (-candidate.power).toNat
  if interval.closed then interval.low * scale ≤ point ∧ point ≤ interval.high * scale
  else interval.low * scale < point ∧ point < interval.high * scale

/-- How far `digits * 10 ^ power` is from the value, counted in a unit fixed by the power. -/
def distance (interval : RoundingInterval) (candidate : Scientific) : Nat :=
  let point := candidate.digits * Nat.pow 10 candidate.power.toNat * interval.den
  let value := interval.value * Nat.pow 10 (-candidate.power).toNat
  (point - value) + (value - point)

/-- Is the value below `10 ^ power`? -/
def isBelow (interval : RoundingInterval) (power : Int) : Bool :=
  interval.value * Nat.pow 10 (-power).toNat < Nat.pow 10 power.toNat * interval.den

/-- The least power of ten above the value, searched upward. -/
def magnitudeFrom (interval : RoundingInterval) : Nat → Int → Int
  | 0, power => power
  | tries + 1, power =>
    if interval.isBelow power then power else interval.magnitudeFrom tries (power + 1)

/-- The least power of ten above the value. The search starts from the count of bits, of which ten
make a little over three digits. -/
def magnitude (interval : RoundingInterval) : Int :=
  let bits : Int := (interval.value.log2 : Int) - interval.den.log2
  interval.magnitudeFrom 4 (((bits - 1) * 30103).fdiv 100000)

/-- The nearer of the value's neighbours with the given last place, if one is in the interval. -/
def nearest? (interval : RoundingInterval) (power : Int) : Option Scientific :=
  let below := interval.value * Nat.pow 10 (-power).toNat / (Nat.pow 10 power.toNat * interval.den)
  let hits := [⟨below, power⟩, ⟨below + 1, power⟩].filter interval.holds
  match hits with
  | [first, second] =>
    if interval.distance second < interval.distance first then some second
    else if interval.distance first < interval.distance second then some first
    else some (if first.digits % 2 = 0 then first else second)
  | first :: _ => some first
  | [] => none

/-- The number with the fewest digits in the interval; seventeen digits always suffice. -/
def shortest (interval : RoundingInterval) : Scientific :=
  let magnitude := interval.magnitude
  ((List.range 17).findSome? fun (count : Nat) ↦ interval.nearest? (magnitude - (count + 1))).getD
    ⟨interval.value / interval.den, 0⟩

end RoundingInterval

/-- The digits without trailing zeros and the place of the point: the number is `0.digits` times
`10 ^ point`. -/
def Scientific.normal (number : Scientific) : List Char × Int :=
  let digits := Nat.toDigits 10 number.digits
  ((digits.reverse.dropWhile (· == '0')).reverse, number.power + digits.length)

/-- What a printer of floating-point numbers decides beyond the digits. -/
structure NumberStyle where
  /-- Numbers are written with an exponent outside this range of the place of the point. -/
  positional : Option (Int × Int)
  /-- What follows a whole number. -/
  wholeSuffix : String

namespace NumberStyle

/-- Every number is positional and a whole number has no point. -/
def plain : NumberStyle := ⟨none, ""⟩

/-- Digits placed around the point, filled up with zeros. -/
def positionalText (style : NumberStyle) (digits : List Char) (point : Int) : String :=
  if point ≤ 0 then
    "0." ++ String.ofList (List.replicate (-point).toNat '0' ++ digits)
  else if digits.length ≤ point.toNat then
    String.ofList (digits ++ List.replicate (point.toNat - digits.length) '0') ++ style.wholeSuffix
  else
    String.ofList (digits.take point.toNat ++ '.' :: digits.drop point.toNat)

/-- Digits with the point behind the first one, and an exponent. -/
def exponentText (digits : List Char) (point : Int) : String :=
  let mantissa := match digits with
    | first :: second :: rest => String.ofList (first :: '.' :: second :: rest)
    | _ => String.ofList digits
  mantissa ++ "e" ++ toString (point - 1)

/-- The text of a finite number without its sign. -/
def magnitudeText (style : NumberStyle) (format : Format) (mantissa : Nat) (exponent : Int) :
    String :=
  if mantissa = 0 then "0" ++ style.wholeSuffix
  else
    let (digits, point) := (RoundingInterval.of format mantissa exponent).shortest.normal
    match style.positional with
    | some (least, greatest) =>
      if least < point ∧ point ≤ greatest then style.positionalText digits point
      else exponentText digits point
    | none => style.positionalText digits point

end NumberStyle

/-- The text of a number in a style: `NaN` and `inf` are words, and a minus sign marks every
negative number, zero included. -/
def Binary.text {format : Format} (style : NumberStyle) (x : Binary format) : String :=
  match x.decode with
  | .nan => "NaN"
  | .infinite negative => if negative then "-inf" else "inf"
  | .finite negative mantissa exponent =>
    (if negative then "-" else "") ++ style.magnitudeText format mantissa exponent

end ColumnStore
