/-!
# Reading positions in YAML text

A `Cursor` stands somewhere in a text and knows its line and its column, from which the nesting of
blocks is read. Five kinds of line ends count; in the text of a scalar the first three are kept as
a line feed.
-/

set_option autoImplicit false

namespace ColumnStore

namespace Yaml

/-- A position in a text, with the characters behind it. -/
structure Cursor where
  rest : List Char
  /-- The count of characters in front. -/
  index : Nat
  line : Nat
  column : Nat

/-- A character that ends a line. -/
def isBreak (c : Char) : Bool :=
  c == '\n' || c == '\r' || c == '\u0085' || c == '\u2028' || c == '\u2029'

/-- A space or a tab. -/
def isBlank (c : Char) : Bool := c == ' ' || c == '\t'

/-- A character between words. -/
def isGap (c : Char) : Bool := isBlank c || isBreak c

/-- A character of a name. -/
def isNameChar (c : Char) : Bool := c.isAlphanum || c == '_' || c == '-'

/-- Does a word end here? -/
def endsWord : List Char → Bool
  | [] => true
  | c :: _ => isGap c

/-- Does a line end here? -/
def endsLine : List Char → Bool
  | [] => true
  | c :: _ => isBreak c

/-- A line end as it is kept in a text. -/
def keptBreak (c : Char) : Char :=
  if c == '\u2028' || c == '\u2029' then c else '\n'

namespace Cursor

/-- The start of a text. -/
def start (cs : List Char) : Cursor := ⟨cs, 0, 0, 0⟩

/-- Passes characters of one line. -/
def advance (cursor : Cursor) (count : Nat) : Cursor :=
  ⟨cursor.rest.drop count, cursor.index + count, cursor.line, cursor.column + count⟩

/-- Passes a line end. -/
def passBreak (cursor : Cursor) : Cursor :=
  match cursor.rest with
  | '\r' :: '\n' :: rest => ⟨rest, cursor.index + 2, cursor.line + 1, 0⟩
  | _ :: rest => ⟨rest, cursor.index + 1, cursor.line + 1, 0⟩
  | [] => cursor

/-- Passes the characters in front that satisfy a condition and are no line ends. -/
def passWhile (cursor : Cursor) (p : Char → Bool) : Cursor :=
  cursor.advance (cursor.rest.takeWhile p).length

/-- Passes the rest of a line if it holds blanks and a comment at most, and the line end. -/
def passLineEnd (cursor : Cursor) : Option Cursor :=
  let cursor := cursor.passWhile isBlank
  let cursor :=
    if cursor.rest.head? = some '#' then cursor.passWhile fun c ↦ !isBreak c else cursor
  if endsLine cursor.rest then some cursor.passBreak else none

/-- Does a mark with three of these characters stand at the start of a line here? -/
def atMark (cursor : Cursor) (c : Char) : Bool :=
  cursor.column == 0 && cursor.rest.take 3 == [c, c, c] && endsWord (cursor.rest.drop 3)

/-- Does the mark between documents stand here, or the one behind a document? -/
def atDocumentMark (cursor : Cursor) : Bool :=
  cursor.atMark '-' || cursor.atMark '.'

end Cursor

end Yaml

end ColumnStore
