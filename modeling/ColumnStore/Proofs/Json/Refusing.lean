import ColumnStore.Proofs.Json.Denoting
import ColumnStore.Proofs.Text.Numeral
import ColumnStore.Proofs.Text.Trimming

/-!
# Texts that denote no value

No value begins with a blank that is not one of the four spaces between parts. So an array is no
value if its first item is none, and an object is none if its first key does not stand in quotes.
-/

set_option autoImplicit false

namespace ColumnStore.Json

variable {front rest : List Char} {c : Char}

/-- No value is read off at the front, whatever the fuel is. -/
structure Refuses (cs : List Char) : Prop where
  reads : ∀ fuel, readValue fuel cs = none

/-- A blank is the beginning of no value. -/
theorem refuses_blank (h : Text.isBlank c = true) (rest : List Char) : Refuses (c :: rest) := by
  have hfirst : ∀ first, Text.isBlank first = false → c ≠ first := by
    rintro first hfirst rfl
    rw [hfirst] at h
    cases h
  have hdigit : ¬ c.isDigit = true := fun hdigit ↦ by
    rw [Text.isBlank_of_isPlain (Text.isPlain_of_isDigit hdigit)] at h
    cases h
  have hwhole : readWhole (c :: rest) = none := by
    rw [readWhole, readDigits, List.takeWhile_cons_of_neg hdigit]
    rfl
  have hnumeral : readNumeral (c :: rest) = none := by
    unfold readNumeral
    split
    rename_i negative cs hsign
    split at hsign
    · rename_i hminus
      exact absurd (List.cons.inj hminus).1 (hfirst '-' (by decide))
    · cases hsign
      rw [hwhole]
      rfl
  constructor
  rintro (_ | fuel)
  · rfl
  · rw [readValue, hnumeral]
    · rfl
    all_goals
      intro more hmore
      exact hfirst _ (by decide) (List.cons.inj hmore).1

/-- The spaces between parts are blank. -/
theorem isSpace_of_isBlank (h : Text.isBlank c = false) : isSpace c = false := by
  refine Bool.eq_false_iff.mpr fun hspace ↦ ?_
  simp only [isSpace, Bool.or_eq_true, beq_iff_eq] at hspace
  rcases hspace with ((rfl | rfl) | rfl) | rfl <;> cases h

/-- Behind blanks stands what the reader goes on with, unless it stops at one of the blanks. -/
theorem dropSpaces_blanks (h : Text.AreBlank front) (hc : isSpace c = false) (rest : List Char) :
    dropSpaces (front ++ c :: rest) = c :: rest ∨
      ∃ blank more, Text.isBlank blank = true ∧
        dropSpaces (front ++ c :: rest) = blank :: more := by
  induction front with
  | nil => exact .inl (dropSpaces_cons hc rest)
  | cons first front ih =>
    obtain ⟨hblank, hfront⟩ := List.forall_mem_cons.mp h
    by_cases hspace : isSpace first = true
    · rw [List.cons_append, dropSpaces, List.dropWhile_cons_of_pos hspace]
      exact ih hfront
    · rw [List.cons_append, dropSpaces_cons (Bool.eq_false_iff.mpr hspace)]
      exact .inr ⟨first, _, hblank, rfl⟩

/-- What is refused is refused with blanks in front of it. -/
theorem refuses_dropSpaces (h : Text.AreBlank front) (hc : isSpace c = false)
    (hrefuses : Refuses (c :: rest)) : Refuses (dropSpaces (front ++ c :: rest)) := by
  rcases dropSpaces_blanks h hc rest with hkept | ⟨blank, more, hblank, hstopped⟩
  · rwa [hkept]
  · rw [hstopped]
    exact refuses_blank hblank more

/-- An object whose first key does not stand in quotes. -/
theorem refuses_object (h : Text.AreBlank front) (hc : isSpace c = false) (hquote : c ≠ '"')
    (hbrace : c ≠ '\x7d') (rest : List Char) : Refuses ('\x7b' :: (front ++ c :: rest)) := by
  have hfirst : ∃ first more, first ≠ '"' ∧ first ≠ '\x7d' ∧
      dropSpaces (front ++ c :: rest) = first :: more := by
    rcases dropSpaces_blanks h hc rest with hkept | ⟨blank, more, hblank, hstopped⟩
    · exact ⟨c, rest, hquote, hbrace, hkept⟩
    · refine ⟨blank, more, ?_, ?_, hstopped⟩
      all_goals
        rintro rfl
        cases hblank
  obtain ⟨first, more, hquote, hbrace, hstart⟩ := hfirst
  have hmembers : ∀ fuel, readMembers fuel (first :: more) = none := by
    have hkey : readKey (first :: more) = none := by
      unfold readKey
      split
      · rename_i hkey
        exact absurd (List.cons.inj hkey).1 hquote
      · rfl
    rintro (_ | fuel)
    · rfl
    · rw [readMembers, hkey]
  constructor
  rintro (_ | fuel)
  · rfl
  · rw [readValue, hstart]
    split
    · rename_i hend
      exact absurd (List.cons.inj hend).1 hbrace
    · rw [hmembers]
      rfl

/-- An array whose first item is refused. -/
theorem refuses_array (h : Text.AreBlank front) (hc : isSpace c = false) (hbracket : c ≠ ']')
    (hrefuses : Refuses (c :: rest)) : Refuses ('[' :: (front ++ c :: rest)) := by
  have hitem := refuses_dropSpaces h hc hrefuses
  have hitems : ∀ fuel, readItems fuel (dropSpaces (front ++ c :: rest)) = none := by
    rintro (_ | fuel)
    · rfl
    · rw [readItems, hitem.reads fuel]
  have hopen : ∀ more, dropSpaces (front ++ c :: rest) ≠ ']' :: more := by
    intro more hmore
    rcases dropSpaces_blanks h hc rest with hkept | ⟨blank, others, hblank, hstopped⟩
    · exact hbracket (List.cons.inj (hkept.symm.trans hmore)).1
    · obtain ⟨rfl, -⟩ := List.cons.inj (hstopped.symm.trans hmore)
      cases hblank
  constructor
  rintro (_ | fuel)
  · rfl
  · rw [readValue]
    split
    · rename_i more hmore
      exact absurd hmore (hopen more)
    · rw [hitems]
      rfl

/-- A text that begins with no value is no value. -/
theorem read_eq_none_of_refuses {text : String} (h : Refuses (dropSpaces text.toList)) :
    read text = none := by
  unfold read
  dsimp only
  rw [h.reads]

end ColumnStore.Json
