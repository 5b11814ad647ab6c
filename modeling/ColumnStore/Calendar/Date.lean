import ColumnStore.Text.Blank
import ColumnStore.Text.Numeral

/-!
# Dates

A `Date` is a day of the proleptic Gregorian calendar. `Date.number` counts days from 1970-01-01,
which is day zero. Dates are written year, month and day with dashes between; the reader takes
months and days of one or two digits, years of up to four digits, and longer years behind a sign.
Blanks in front of each number are skipped.
-/

set_option autoImplicit false

namespace ColumnStore

namespace Calendar

/-- A year with a 29th of February. -/
def isLeapYear (year : Int) : Bool :=
  (year % 4 == 0 && year % 100 != 0) || year % 400 == 0

/-- The count of days in a month. -/
def daysInMonth (year : Int) (month : Nat) : Nat :=
  match month with
  | 2 => if isLeapYear year then 29 else 28
  | 4 | 6 | 9 | 11 => 30
  | _ => 31

/-- Days from the start of year zero to the start of a year. -/
def daysBeforeYear (year : Int) : Int :=
  365 * year + (year + 3) / 4 - (year + 99) / 100 + (year + 399) / 400

/-- Days from the start of a year to the start of one of its months. -/
def daysBeforeMonth (year : Int) (month : Nat) : Nat :=
  (List.range (month - 1)).foldl
    (fun days earlier ↦ days + daysInMonth year (earlier + 1)) 0

/-- Days from the start of year zero to 1970-01-01. -/
def epoch : Int := daysBeforeYear 1970

/-- The first year that has dates. -/
def firstYear : Int := -262143

/-- The last year that has dates. -/
def lastYear : Int := 262142

/-- Takes `expected` off the front. -/
def expect (expected : Char) : List Char → Option (List Char)
  | [] => none
  | c :: rest => if c = expected then some rest else none

/-- Reads at least one and at most `most` digits. -/
def readDigits (most : Nat) (cs : List Char) : Option (List Char × List Char) :=
  let digits := (cs.take most).takeWhile Char.isDigit
  if digits.isEmpty then none else some (digits, cs.drop digits.length)

/-- Skips blanks and reads a number of one or two digits. -/
def readShort (cs : List Char) : Option (Nat × List Char) :=
  (readDigits 2 (Text.dropBlanks cs)).map fun parts ↦ (Text.natOfDigits parts.1, parts.2)

/-- Skips blanks and reads a year: up to four digits, or a sign and any count of digits. -/
def readYear (cs : List Char) : Option (Int × List Char) :=
  let year (negative : Bool) (most : Nat) (cs : List Char) :=
    (readDigits most cs).map fun parts ↦
      (Text.signed negative (Text.natOfDigits parts.1), parts.2)
  match Text.dropBlanks cs with
  | '-' :: rest => year true rest.length rest
  | '+' :: rest => year false rest.length rest
  | rest => year false 4 rest

end Calendar

/-- A day of the calendar. -/
structure Date where
  year : Int
  month : Nat
  day : Nat
  deriving DecidableEq, Repr

namespace Date

/-- The month and the day exist and the year is one that has dates. -/
def IsValid (date : Date) : Prop :=
  Calendar.firstYear ≤ date.year ∧ date.year ≤ Calendar.lastYear ∧
    1 ≤ date.month ∧ date.month ≤ 12 ∧
      1 ≤ date.day ∧ date.day ≤ Calendar.daysInMonth date.year date.month

instance (date : Date) : Decidable date.IsValid := by
  unfold IsValid
  infer_instance

/-- Days since 1970-01-01. -/
def number (date : Date) : Int :=
  Calendar.daysBeforeYear date.year + Calendar.daysBeforeMonth date.year date.month
    + ((date.day : Int) - 1) - Calendar.epoch

/-- Reads a date from the front of a text. -/
def readFront (cs : List Char) : Option (Date × List Char) := do
  let (year, cs) ← Calendar.readYear cs
  let cs ← Calendar.expect '-' cs
  let (month, cs) ← Calendar.readShort cs
  let cs ← Calendar.expect '-' cs
  let (day, cs) ← Calendar.readShort cs
  let date : Date := ⟨year, month, day⟩
  if date.IsValid then some (date, cs) else none

/-- Reads a date that is the whole text, as its day number. -/
def read (cs : List Char) : Option Int :=
  match readFront cs with
  | some (date, []) => some date.number
  | _ => none

/-- The first day counted is day zero. -/
theorem number_epoch : (Date.mk 1970 1 1).number = 0 := by decide

end Date

end ColumnStore
