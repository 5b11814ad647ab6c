import ColumnStore.Text.Cut
import ColumnStore.Text.Numeral

/-!
# Writing JSON texts

A compact JSON text is put together from the texts of its parts, with no space between them. Inside
quotes a quote and a backslash stand behind a backslash, and control characters are escaped.
-/

set_option autoImplicit false

namespace ColumnStore

namespace Json

/-- How a character is written inside quotes. -/
def quotedChar (c : Char) : List Char :=
  match c with
  | '"' => ['\\', '"']
  | '\\' => ['\\', '\\']
  | '\x08' => ['\\', 'b']
  | '\x0c' => ['\\', 'f']
  | '\n' => ['\\', 'n']
  | '\r' => ['\\', 'r']
  | '\t' => ['\\', 't']
  | c =>
    if c.toNat < 0x20 then '\\' :: 'u' :: Text.padded 4 (Nat.toDigits 16 c.toNat) else [c]

/-- A text in quotes. -/
def quoted (text : String) : String :=
  String.ofList ('"' :: text.toList.flatMap quotedChar ++ ['"'])

/-- An array of items that are written already. -/
def arrayText (items : List String) : String :=
  "[" ++ Text.joinWith "," items ++ "]"

/-- An object of members whose items are written already. -/
def objectText (members : List (String × String)) : String :=
  "\x7b" ++ Text.joinWith "," (members.map fun member ↦ quoted member.1 ++ ":" ++ member.2)
    ++ "\x7d"

/-- The texts of the two truth values. -/
def booleanText (b : Bool) : String :=
  if b then "true" else "false"

end Json

end ColumnStore
