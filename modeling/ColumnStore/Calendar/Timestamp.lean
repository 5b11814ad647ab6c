import ColumnStore.Calendar.Date

/-!
# Timestamps

A timestamp is a date, a separator and a time of day with an optional fraction of a second. It is
counted in whole milliseconds since 1970-01-01, what is left of the fraction being dropped. Second
60 is allowed and counts as the first second of the next minute. The separator is either a run of
blanks, which may be empty, or the letter `T`.
-/

set_option autoImplicit false

namespace ColumnStore

/-- A time of day in hours, minutes, seconds and whole milliseconds. -/
structure TimeOfDay where
  hour : Nat
  minute : Nat
  second : Nat
  millisecond : Nat
  deriving DecidableEq, Repr

namespace TimeOfDay

/-- Milliseconds since midnight. -/
def number (time : TimeOfDay) : Nat :=
  ((time.hour * 60 + time.minute) * 60 + time.second) * 1000 + time.millisecond

/-- Whole milliseconds of a fraction given by its digits. -/
def millisecondsOf (digits : List Char) : Nat :=
  Text.natOfDigits digits * Nat.pow 10 (9 - digits.length) / 1000000

/-- Reads an optional point and fraction. Nine digits count and the digits behind are skipped. -/
def readFraction : List Char → Option (Nat × List Char)
  | '.' :: rest =>
    (Calendar.readDigits 9 rest).map fun parts ↦
      (millisecondsOf parts.1, parts.2.dropWhile Char.isDigit)
  | cs => some (0, cs)

/-- Reads a time of day that is all of the text. -/
def read (cs : List Char) : Option TimeOfDay := do
  let (hour, cs) ← Calendar.readShort cs
  let cs ← Calendar.expect ':' cs
  let (minute, cs) ← Calendar.readShort cs
  let cs ← Calendar.expect ':' cs
  let (second, cs) ← Calendar.readShort cs
  let (millisecond, cs) ← readFraction cs
  if hour < 24 ∧ minute < 60 ∧ second ≤ 60 ∧ cs = [] then
    some ⟨hour, minute, second, millisecond⟩
  else none

end TimeOfDay

namespace Timestamp

/-- Milliseconds from the start of one day to the start of the next. -/
def millisecondsPerDay : Int := 86400000

/-- Reads a date and a time of day; `separator` takes off what stands between them. -/
def readWith (separator : List Char → Option (List Char)) (cs : List Char) : Option Int := do
  let (date, rest) ← Date.readFront cs
  let rest ← separator rest
  let time ← TimeOfDay.read rest
  some (date.number * millisecondsPerDay + time.number)

/-- Reads a timestamp, as milliseconds since 1970-01-01. -/
def read (cs : List Char) : Option Int :=
  (readWith (fun rest ↦ some (Text.dropBlanks rest)) cs).or
    (readWith (Calendar.expect 'T') cs)

end Timestamp

end ColumnStore
