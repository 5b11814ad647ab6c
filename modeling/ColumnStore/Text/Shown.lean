import ColumnStore.Text.Cut
import ColumnStore.Text.Numeral
import ColumnStore.Text.Visible

/-!
# Texts in diagnostics

`Text.shown` puts a text in quotes so that a reader of a message can tell every character: quotes
and backslashes stand behind a backslash, and a character that does not show is written by its
code point.
-/

set_option autoImplicit false

namespace ColumnStore.Text

/-- How a character is written in a diagnostic. -/
def shownChar (c : Char) : List Char :=
  match c with
  | '"' => ['\\', '"']
  | '\\' => ['\\', '\\']
  | '\n' => ['\\', 'n']
  | '\r' => ['\\', 'r']
  | '\t' => ['\\', 't']
  | '\x00' => ['\\', '0']
  | c =>
    if shows c then [c]
    else '\\' :: 'u' :: '\x7b' :: Nat.toDigits 16 c.toNat ++ ['\x7d']

/-- A text in quotes, for a diagnostic. -/
def shown (text : String) : String :=
  String.ofList ('"' :: text.toList.flatMap shownChar ++ ['"'])

/-- A list of texts in quotes, for a diagnostic. -/
def shownList (texts : List String) : String :=
  "[" ++ joinWith ", " (texts.map shown) ++ "]"

end ColumnStore.Text
