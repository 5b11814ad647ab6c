/-!
# Numerals

Whole numbers as rows of ASCII digits with an optional sign. `readInteger` accepts one sign and at
least one digit and nothing else; `readWithin` also asks that the number lies in a range, so that a
number too large for its column is refused and never wrapped. `hexDigits` and `padded` write
numbers with a least width.
-/

set_option autoImplicit false

namespace ColumnStore.Text

/-- The number a decimal digit stands for. -/
def digitValue (c : Char) : Nat :=
  c.toNat - '0'.toNat

/-- The number that a row of decimal digits denotes. -/
def natOfDigits (digits : List Char) : Nat :=
  digits.foldl (fun n c ↦ 10 * n + digitValue c) 0

/-- One or more ASCII digits and nothing else. -/
def isDigits (cs : List Char) : Bool :=
  !cs.isEmpty && cs.all Char.isDigit

/-- Splits off one leading sign; the flag says that it was a minus sign. -/
def takeSign : List Char → Bool × List Char
  | '-' :: rest => (true, rest)
  | '+' :: rest => (false, rest)
  | cs => (false, cs)

/-- The number, or its negative. -/
def signed (negative : Bool) (n : Nat) : Int :=
  if negative then -(n : Int) else n

/-- Reads a row of digits. -/
def readNat (cs : List Char) : Option Nat :=
  if isDigits cs then some (natOfDigits cs) else none

/-- Reads an optional sign and a row of digits. -/
def readInteger (cs : List Char) : Option Int :=
  let (negative, digits) := takeSign cs
  (readNat digits).map (signed negative)

/-- Reads a whole number that lies between `least` and `greatest`. -/
def readWithin (least greatest : Int) (cs : List Char) : Option Int :=
  (readInteger cs).filter fun n ↦ decide (least ≤ n ∧ n ≤ greatest)

/-- The range of whole numbers held by a signed word of `bits` bits. -/
def readWord (bits : Nat) (cs : List Char) : Option Int :=
  readWithin (-(Nat.pow 2 (bits - 1) : Nat)) ((Nat.pow 2 (bits - 1) : Nat) - 1) cs

/-- The value of a hexadecimal digit in either case. -/
def hexValue? (c : Char) : Option Nat :=
  if c.isDigit then some (digitValue c)
  else if 'a' ≤ c ∧ c ≤ 'f' then some (c.toNat - 'a'.toNat + 10)
  else if 'A' ≤ c ∧ c ≤ 'F' then some (c.toNat - 'A'.toNat + 10)
  else none

/-- The number that a row of hexadecimal digits denotes; every character must be one. -/
def readHex (cs : List Char) : Option Nat :=
  cs.foldlM (fun n c ↦ (hexValue? c).map fun d ↦ 16 * n + d) 0

/-- A row of characters filled up with zeros in front to a least width. -/
def padded (width : Nat) (digits : List Char) : List Char :=
  List.replicate (width - digits.length) '0' ++ digits

/-- A number in lower-case hexadecimal, with at least `width` digits. -/
def hexDigits (width n : Nat) : String :=
  String.ofList (padded width (Nat.toDigits 16 n))

/-- A number in decimal, with at least `width` digits. -/
def decimalDigits (width n : Nat) : String :=
  String.ofList (padded width (Nat.toDigits 10 n))

theorem readWithin_bounds {least greatest n : Int} {cs : List Char}
    (h : readWithin least greatest cs = some n) : least ≤ n ∧ n ≤ greatest := by
  simp only [readWithin, Option.filter_eq_some_iff, decide_eq_true_eq] at h
  exact h.2

end ColumnStore.Text
