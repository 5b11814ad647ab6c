import ColumnStore.Json.Basic

/-!
# Reading JSON texts

`Json.read` accepts exactly the JSON grammar: one value, with blanks around it and between its
parts. Texts are read in two steps. `readUnits` takes off the characters and escapes up to the
closing quote, and `joinUnits` puts the halves of surrogate pairs together.
-/

set_option autoImplicit false

namespace ColumnStore

namespace Json

/-- The four characters that may stand between the parts of a value. -/
def isSpace (c : Char) : Bool :=
  c == ' ' || c == '\n' || c == '\t' || c == '\r'

/-- What is left once the spaces in front are gone. -/
def dropSpaces (cs : List Char) : List Char :=
  cs.dropWhile isSpace

/-- A unit of a text: a character, or half of a surrogate pair. -/
inductive TextUnit where
  | char (c : Char)
  | half (code : Nat)
  deriving DecidableEq

/-- The character that an escape of one letter denotes. -/
def escaped? : Char → Option Char
  | '"' => some '"'
  | '\\' => some '\\'
  | '/' => some '/'
  | 'b' => some '\x08'
  | 'f' => some '\x0c'
  | 'n' => some '\n'
  | 'r' => some '\r'
  | 't' => some '\t'
  | _ => none

/-- The unit with a code of four hexadecimal digits. -/
def unitOf (code : Nat) : TextUnit :=
  if 0xD800 ≤ code ∧ code < 0xE000 then .half code else .char (Char.ofNat code)

/-- Reads the units of a text and its closing quote. Control characters must be escaped. -/
def readUnits : List Char → Option (List TextUnit × List Char)
  | [] => none
  | '"' :: rest => some ([], rest)
  | '\\' :: 'u' :: a :: b :: c :: d :: rest =>
    match Text.readHex [a, b, c, d], readUnits rest with
    | some code, some (units, rest) => some (unitOf code :: units, rest)
    | _, _ => none
  | '\\' :: letter :: rest =>
    match escaped? letter, readUnits rest with
    | some c, some (units, rest) => some (.char c :: units, rest)
    | _, _ => none
  | c :: rest =>
    if c = '\\' ∨ c.toNat < 0x20 then none
    else (readUnits rest).map fun parts ↦ (.char c :: parts.1, parts.2)

/-- The character of a surrogate pair, if the two halves are one. -/
def pairChar? (high low : Nat) : Option Char :=
  if high < 0xDC00 ∧ 0xDC00 ≤ low then
    some (Char.ofNat (0x10000 + (high - 0xD800) * 0x400 + (low - 0xDC00)))
  else none

/-- The characters of a text, if every half of a pair stands before or behind its other half. -/
def joinUnits : List TextUnit → Option (List Char)
  | [] => some []
  | .char c :: rest => (joinUnits rest).map (c :: ·)
  | .half high :: .half low :: rest =>
    match pairChar? high low, joinUnits rest with
    | some c, some cs => some (c :: cs)
    | _, _ => none
  | .half _ :: _ => none

/-- Reads a text behind its opening quote. -/
def readText (cs : List Char) : Option (Option String × List Char) :=
  (readUnits cs).map fun parts ↦ ((joinUnits parts.1).map String.ofList, parts.2)

/-- Reads one or more digits. -/
def readDigits (cs : List Char) : Option (List Char × List Char) :=
  let digits := cs.takeWhile Char.isDigit
  if digits.isEmpty then none else some (digits, cs.dropWhile Char.isDigit)

/-- Reads the digits in front of a point: zero alone, or digits that do not begin with zero. -/
def readWhole (cs : List Char) : Option (List Char × List Char) :=
  (readDigits cs).filter fun parts ↦ parts.1 == ['0'] || parts.1.head? != some '0'

/-- Reads a point and the digits behind it, if there is a point. -/
def readFraction : List Char → Option (List Char × List Char)
  | '.' :: rest => readDigits rest
  | cs => some ([], cs)

/-- Reads an exponent, if there is one. -/
def readExponent : List Char → Option (Option (Bool × List Char) × List Char)
  | [] => some (none, [])
  | c :: rest =>
    if c = 'e' ∨ c = 'E' then
      let (negative, rest) := Text.takeSign rest
      (readDigits rest).map fun parts ↦ (some (negative, parts.1), parts.2)
    else some (none, c :: rest)

/-- Reads a number. -/
def readNumeral (cs : List Char) : Option (Numeral × List Char) := do
  let (negative, cs) := match cs with
    | '-' :: rest => (true, rest)
    | _ => (false, cs)
  let (whole, cs) ← readWhole cs
  let (fraction, cs) ← readFraction cs
  let (exponent, cs) ← readExponent cs
  some (⟨negative, whole, fraction, exponent⟩, cs)

mutual

/-- Reads a value that begins with the first character; every array, object, item and member uses
up one unit of fuel. -/
def readValue : Nat → List Char → Option (Json × List Char)
  | 0, _ => none
  | fuel + 1, cs =>
    match cs with
    | 'n' :: 'u' :: 'l' :: 'l' :: rest => some (null, rest)
    | 't' :: 'r' :: 'u' :: 'e' :: rest => some (boolean true, rest)
    | 'f' :: 'a' :: 'l' :: 's' :: 'e' :: rest => some (boolean false, rest)
    | '"' :: rest => (readText rest).map fun parts ↦ (text parts.1, parts.2)
    | '[' :: rest =>
      match dropSpaces rest with
      | ']' :: rest => some (array [], rest)
      | rest => (readItems fuel rest).map fun parts ↦ (array parts.1, parts.2)
    | '\x7b' :: rest =>
      match dropSpaces rest with
      | '\x7d' :: rest => some (object [], rest)
      | rest => (readMembers fuel rest).map fun parts ↦ (object parts.1, parts.2)
    | cs => (readNumeral cs).map fun parts ↦ (number parts.1, parts.2)

/-- Reads the items of an array, at least one, and the closing bracket. -/
def readItems : Nat → List Char → Option (List Json × List Char)
  | 0, _ => none
  | fuel + 1, cs =>
    match readValue fuel cs with
    | none => none
    | some (item, rest) =>
      match dropSpaces rest with
      | ']' :: rest => some ([item], rest)
      | ',' :: rest =>
        (readItems fuel (dropSpaces rest)).map fun parts ↦ (item :: parts.1, parts.2)
      | _ => none

/-- Reads the members of an object, at least one, and the closing brace. -/
def readMembers : Nat → List Char → Option (List (Option String × Json) × List Char)
  | 0, _ => none
  | fuel + 1, cs =>
    match readKey cs with
    | none => none
    | some (key, rest) =>
      match readValue fuel rest with
      | none => none
      | some (item, rest) =>
        match dropSpaces rest with
        | '\x7d' :: rest => some ([(key, item)], rest)
        | ',' :: rest =>
          (readMembers fuel (dropSpaces rest)).map fun parts ↦ ((key, item) :: parts.1, parts.2)
        | _ => none

/-- Reads a key, the colon and the spaces behind it. -/
def readKey : List Char → Option (Option String × List Char)
  | '"' :: cs =>
    match readText cs with
    | none => none
    | some (key, rest) =>
      match dropSpaces rest with
      | ':' :: rest => some (key, dropSpaces rest)
      | _ => none
  | _ => none

end

/-- Reads a text that is one value. Each character is worth two units of fuel. -/
def read (text : String) : Option Json :=
  let cs := text.toList
  match readValue (2 * cs.length + 2) (dropSpaces cs) with
  | some (value, rest) => if (dropSpaces rest).isEmpty then some value else none
  | none => none

/-- Reads a text that is one value in which nothing is left open. -/
def readSound (text : String) : Option Json :=
  (read text).filter (isSound nestingLimit)

end Json

end ColumnStore
