/-!
# Blank characters

`Text.isBlank` is the Unicode property `White_Space`, the set that trimming, splitting into words
and the calendar patterns all use. `Text.trim` removes blanks from both ends of a text and
`Text.words` cuts a text at its runs of blanks.
-/

set_option autoImplicit false

namespace ColumnStore.Text

/-- A character with the Unicode property `White_Space`. -/
def isBlank (c : Char) : Bool :=
  let n := c.toNat
  (9 ≤ n && n ≤ 13) || n == 0x20 || n == 0x85 || n == 0xA0 || n == 0x1680 ||
    (0x2000 ≤ n && n ≤ 0x200A) || n == 0x2028 || n == 0x2029 || n == 0x202F ||
    n == 0x205F || n == 0x3000

/-- What is left once the blanks in front are gone. -/
def dropBlanks (cs : List Char) : List Char :=
  cs.dropWhile isBlank

/-- What is left once the blanks at both ends are gone. -/
def trimChars (cs : List Char) : List Char :=
  (dropBlanks (dropBlanks cs).reverse).reverse

/-- A text without the blanks at its ends. -/
def trim (text : String) : String :=
  String.ofList (trimChars text.toList)

/-- A text that holds nothing but blanks. -/
def isAllBlank (text : String) : Bool :=
  text.toList.all isBlank

/-- The runs of non-blank characters, in order; `run` is the run being read, last character
first. -/
def wordsFrom (run : List Char) : List Char → List (List Char)
  | [] => if run.isEmpty then [] else [run.reverse]
  | c :: rest =>
    if isBlank c then
      if run.isEmpty then wordsFrom [] rest else run.reverse :: wordsFrom [] rest
    else wordsFrom (c :: run) rest

/-- The words of a text: its maximal runs of non-blank characters. -/
def words (text : String) : List String :=
  (wordsFrom [] text.toList).map String.ofList

/-- Every character that the core library calls white space is blank. -/
theorem isBlank_of_isWhitespace {c : Char} (h : c.isWhitespace = true) : isBlank c = true := by
  simp only [Char.isWhitespace, Bool.or_eq_true, decide_eq_true_eq] at h
  rcases h with ((h | h) | h) | h <;> subst h <;> decide

end ColumnStore.Text
