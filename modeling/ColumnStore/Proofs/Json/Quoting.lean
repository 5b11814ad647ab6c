import ColumnStore.Json.Reader
import ColumnStore.Json.Writer

/-!
# Texts in quotes

A text that was put in quotes is read back as it was, whatever its characters are: none of them
closes the quotes, and an escape denotes the character that it was written for.
-/

set_option autoImplicit false

namespace ColumnStore.Json

/-- A unit in front of those behind it, with what is left. -/
def inFront (unit : TextUnit) (parts : List TextUnit × List Char) : List TextUnit × List Char :=
  (unit :: parts.1, parts.2)

/-- A character that needs no escape is read as it stands. -/
theorem readUnits_plain {c : Char} (hquote : c ≠ '"') (hslash : c ≠ '\\') (hspace : 0x20 ≤ c.toNat)
    (rest : List Char) : readUnits (c :: rest) = (readUnits rest).map (inFront (.char c)) := by
  have hkept : ¬ (c = '\\' ∨ c.toNat < 0x20) := by
    rintro (h | h)
    · exact hslash h
    · omega
  rw [readUnits]
  · rw [if_neg hkept]
    rfl
  · exact hquote
  · exact fun _ _ _ _ _ hc _ ↦ hslash hc
  · exact fun _ _ hc _ ↦ hslash hc

/-- An escape of one letter denotes a character. -/
theorem readUnits_letter {letter c : Char} (hletter : letter ≠ 'u') (hc : escaped? letter = some c)
    (rest : List Char) :
    readUnits ('\\' :: letter :: rest) = (readUnits rest).map (inFront (.char c)) := by
  rw [readUnits]
  · rw [hc]
    cases readUnits rest <;> rfl
  · exact fun _ _ _ _ _ h _ ↦ hletter h

/-- A control character is written with four digits that denote its code. -/
theorem readHex_padded : ∀ code < 0x20, (Text.padded 4 (Nat.toDigits 16 code)).length = 4 ∧
    Text.readHex (Text.padded 4 (Nat.toDigits 16 code)) = some code ∧
      unitOf code = .char (Char.ofNat code) := by
  decide

/-- An escape with the code of a control character denotes it. -/
theorem readUnits_code {c : Char} (hc : c.toNat < 0x20) (rest : List Char) :
    readUnits ('\\' :: 'u' :: Text.padded 4 (Nat.toDigits 16 c.toNat) ++ rest) =
      (readUnits rest).map (inFront (.char c)) := by
  obtain ⟨hlength, hread, hunit⟩ := readHex_padded c.toNat hc
  rw [Char.ofNat_toNat] at hunit
  match hdigits : Text.padded 4 (Nat.toDigits 16 c.toNat), hlength with
  | [first, second, third, fourth], _ =>
    rw [hdigits] at hread
    rw [List.cons_append, List.cons_append, List.cons_append, List.cons_append, List.cons_append,
      List.cons_append, List.nil_append, readUnits, hread]
    cases readUnits rest with
    | none => rfl
    | some parts =>
      simp only [hunit]
      rfl

/-- Every character is read back from the way it is written. -/
theorem readUnits_quotedChar (c : Char) (rest : List Char) :
    readUnits (quotedChar c ++ rest) = (readUnits rest).map (inFront (.char c)) := by
  unfold quotedChar
  split
  case h_8 hquote hslash _ _ _ _ _ =>
    split
    · rename_i hcontrol
      exact readUnits_code hcontrol rest
    · rename_i hspace
      exact readUnits_plain hquote hslash (Nat.le_of_not_lt hspace) rest
  all_goals exact readUnits_letter (by decide) rfl rest

theorem readUnits_flatMap (cs rest : List Char) :
    readUnits (cs.flatMap quotedChar ++ '"' :: rest) = some (cs.map .char, rest) := by
  induction cs with
  | nil => rfl
  | cons c cs ih =>
    rw [List.flatMap_cons, List.append_assoc, readUnits_quotedChar, ih]
    rfl

theorem joinUnits_map_char (cs : List Char) : joinUnits (cs.map .char) = some cs := by
  induction cs with
  | nil => rfl
  | cons c cs ih => rw [List.map_cons, joinUnits, ih, Option.map_some]

/-- A text in quotes is read back behind its opening quote. -/
theorem readText_flatMap (text : String) (rest : List Char) :
    readText (text.toList.flatMap quotedChar ++ '"' :: rest) = some (some text, rest) := by
  rw [readText, readUnits_flatMap, Option.map_some, joinUnits_map_char, Option.map_some,
    String.ofList_toList]

theorem toList_quoted (text : String) :
    (quoted text).toList = '"' :: text.toList.flatMap quotedChar ++ ['"'] :=
  String.toList_ofList

end ColumnStore.Json
