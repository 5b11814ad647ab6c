import ColumnStore.Proofs.Json.Quoting
import Mathlib.Data.List.Forall2

/-!
# Texts that denote values

A text denotes a value if the reader takes exactly the text off and gives the value. Texts in
quotes denote texts, and what is put together from texts that denote values denotes the array or the
object of these values. A text that denotes a value is read as this value.
-/

set_option autoImplicit false

namespace ColumnStore.Json

/-- The reader takes the characters off, whatever stands behind them, and gives the value. Two units
of fuel are enough for each character. -/
structure Denotes (text : String) (value : Json) : Prop where
  head : ∃ c rest, text.toList = c :: rest ∧ isSpace c = false ∧ c ≠ ']' ∧ c ≠ '\x7d'
  reads : ∀ fuel rest, 2 * text.toList.length ≤ fuel →
    readValue fuel (text.toList ++ rest) = some (value, rest)

variable {text : String} {texts : List String} {value item : Json} {items : List Json}
  {member : String × String} {members : List (String × String)}
  {pairs : List (Option String × Json)}

theorem dropSpaces_cons {c : Char} (h : isSpace c = false) (rest : List Char) :
    dropSpaces (c :: rest) = c :: rest :=
  List.dropWhile_cons_of_neg (by simp [h])

/-- No space stands in front of what denotes a value. -/
theorem Denotes.dropSpaces_eq (h : Denotes text value) (rest : List Char) :
    dropSpaces (text.toList ++ rest) = text.toList ++ rest := by
  obtain ⟨c, more, htext, hspace, -, -⟩ := h.head
  rw [htext, List.cons_append]
  exact dropSpaces_cons hspace _

/-- A text in quotes denotes the text. -/
theorem denotes_quoted (content : String) : Denotes (quoted content) (.text (some content)) where
  head := ⟨'"', _, toList_quoted content, rfl, by decide, by decide⟩
  reads fuel rest hfuel := by
    rw [toList_quoted] at hfuel ⊢
    obtain ⟨fuel, rfl⟩ : ∃ less, fuel = less + 1 := ⟨fuel - 1, by simp at hfuel; omega⟩
    rw [List.cons_append, List.cons_append, List.append_assoc, List.singleton_append, readValue,
      readText_flatMap]
    rfl

/-! ### Arrays -/

theorem toList_joinWith_cons (first second : String) (rest : List String) :
    (Text.joinWith "," (first :: second :: rest)).toList =
      first.toList ++ ',' :: (Text.joinWith "," (second :: rest)).toList := by
  simp [Text.joinWith, String.toList_append]

/-- What is joined begins with the first text. -/
theorem exists_toList_joinWith (first : String) (rest : List String) :
    ∃ more, (Text.joinWith "," (first :: rest)).toList = first.toList ++ more := by
  cases rest with
  | nil => exact ⟨[], (List.append_nil _).symm⟩
  | cons second rest => exact ⟨_, toList_joinWith_cons first second rest⟩

/-- Items with commas between them are read one after the other. -/
theorem readItems_joinWith (h : List.Forall₂ Denotes (text :: texts) (item :: items))
    (fuel : Nat) (rest : List Char)
    (hfuel : 2 * (Text.joinWith "," (text :: texts)).toList.length < fuel) :
    readItems fuel ((Text.joinWith "," (text :: texts)).toList ++ ']' :: rest) =
      some (item :: items, rest) := by
  obtain ⟨hitem, hitems⟩ := List.forall₂_cons.mp h
  induction texts generalizing text item items fuel with
  | nil =>
    cases hitems
    obtain ⟨fuel, rfl⟩ : ∃ less, fuel = less + 1 := ⟨fuel - 1, by omega⟩
    rw [Text.joinWith] at hfuel ⊢
    rw [readItems, hitem.reads fuel _ (by omega)]
    rfl
  | cons second texts ih =>
    obtain ⟨next, items, hnext, hothers, rfl⟩ := List.forall₂_cons_left_iff.mp hitems
    obtain ⟨fuel, rfl⟩ : ∃ less, fuel = less + 1 := ⟨fuel - 1, by omega⟩
    rw [toList_joinWith_cons] at hfuel ⊢
    rw [List.length_append, List.length_cons] at hfuel
    have hstart : dropSpaces ((Text.joinWith "," (second :: texts)).toList ++ ']' :: rest) =
        (Text.joinWith "," (second :: texts)).toList ++ ']' :: rest := by
      obtain ⟨more, hmore⟩ := exists_toList_joinWith second texts
      rw [hmore, List.append_assoc]
      exact hnext.dropSpaces_eq _
    rw [List.append_assoc, List.cons_append, readItems, hitem.reads fuel _ (by omega)]
    change (readItems fuel (dropSpaces _)).map _ = _
    rw [hstart, ih hitems fuel (by omega) hnext hothers]
    rfl

/-- What is put together from texts that denote values denotes the array of these values. -/
theorem denotes_arrayText (h : List.Forall₂ Denotes texts items) :
    Denotes (arrayText texts) (.array items) where
  head := ⟨'[', _, by simp [arrayText]; rfl, rfl, by decide, by decide⟩
  reads fuel rest hfuel := by
    have htext : (arrayText texts).toList = '[' :: (Text.joinWith "," texts).toList ++ [']'] := by
      simp [arrayText, String.toList_append]
    rw [htext] at hfuel ⊢
    simp only [List.length_append, List.length_cons, List.length_nil] at hfuel
    obtain ⟨fuel, rfl⟩ : ∃ less, fuel = less + 1 := ⟨fuel - 1, by omega⟩
    rw [List.cons_append, List.cons_append, List.append_assoc, List.singleton_append, readValue]
    cases h with
    | nil => rfl
    | @cons text item texts items hitem hitems =>
      obtain ⟨c, more, hc, hspace, hbracket, -⟩ := hitem.head
      obtain ⟨joined, hjoined⟩ := exists_toList_joinWith text texts
      have hitem := readItems_joinWith (.cons hitem hitems) fuel rest (by omega)
      rw [hjoined, hc, List.cons_append, List.cons_append] at hitem ⊢
      rw [dropSpaces_cons hspace]
      split
      · rename_i heq
        exact absurd (List.cons.inj heq).1 hbracket
      · rw [hitem]
        rfl

/-! ### Objects -/

/-- The key is that of the member, and its text denotes the value. -/
def DenotesMember (member : String × String) (pair : Option String × Json) : Prop :=
  pair.1 = some member.1 ∧ Denotes member.2 pair.2

/-- How a member is written. -/
def memberText (member : String × String) : String :=
  quoted member.1 ++ ":" ++ member.2

theorem toList_memberText (member : String × String) :
    (memberText member).toList =
      '"' :: (member.1.toList.flatMap quotedChar ++ '"' :: ':' :: member.2.toList) := by
  simp [memberText, String.toList_append, toList_quoted]

/-- The key of a member and the colon are read off. -/
theorem readKey_memberText (h : Denotes member.2 value) (rest : List Char) :
    readKey ((memberText member).toList ++ rest) =
      some (some member.1, member.2.toList ++ rest) := by
  rw [toList_memberText, List.cons_append, List.append_assoc, List.cons_append, List.cons_append,
    readKey, readText_flatMap]
  dsimp only
  rw [dropSpaces_cons (by decide)]
  exact congrArg (fun cs ↦ some (some member.1, cs)) (h.dropSpaces_eq rest)

/-- A member is read off, and what stands behind it tells whether there are more. -/
theorem readMembers_memberText {pair : Option String × Json} (h : DenotesMember member pair)
    (fuel : Nat) (rest : List Char) (hfuel : 2 * (memberText member).toList.length ≤ fuel) :
    readMembers (fuel + 1) ((memberText member).toList ++ rest) =
      match dropSpaces rest with
      | '\x7d' :: rest => some ([pair], rest)
      | ',' :: rest =>
        (readMembers fuel (dropSpaces rest)).map fun parts ↦ (pair :: parts.1, parts.2)
      | _ => none := by
  obtain ⟨key, item⟩ := pair
  obtain ⟨rfl, hitem⟩ : key = some member.1 ∧ Denotes member.2 item := h
  have hlength : 2 * member.2.toList.length ≤ fuel := by
    rw [toList_memberText] at hfuel
    simp only [List.length_cons, List.length_append] at hfuel
    omega
  have hvalue := hitem.reads fuel rest hlength
  rw [readMembers, readKey_memberText hitem]
  dsimp only
  generalize readValue fuel (member.2.toList ++ rest) = found at hvalue ⊢
  subst hvalue
  rfl

/-- Members with commas between them are read one after the other. -/
theorem readMembers_joinWith {pair : Option String × Json}
    (h : List.Forall₂ DenotesMember (member :: members) (pair :: pairs)) (fuel : Nat)
    (rest : List Char)
    (hfuel : 2 * (Text.joinWith "," ((member :: members).map memberText)).toList.length < fuel) :
    readMembers fuel
        ((Text.joinWith "," ((member :: members).map memberText)).toList ++ '\x7d' :: rest) =
      some (pair :: pairs, rest) := by
  obtain ⟨hmember, hmembers⟩ := List.forall₂_cons.mp h
  induction members generalizing member pair pairs fuel with
  | nil =>
    cases hmembers
    obtain ⟨fuel, rfl⟩ : ∃ less, fuel = less + 1 := ⟨fuel - 1, by omega⟩
    rw [List.map_cons, List.map_nil, Text.joinWith] at hfuel ⊢
    rw [readMembers_memberText hmember fuel _ (by omega)]
    rfl
  | cons second members ih =>
    obtain ⟨next, pairs, hnext, hothers, rfl⟩ := List.forall₂_cons_left_iff.mp hmembers
    obtain ⟨fuel, rfl⟩ : ∃ less, fuel = less + 1 := ⟨fuel - 1, by omega⟩
    have hshort := ih hmembers fuel
    rw [List.map_cons] at hshort
    rw [List.map_cons, List.map_cons, toList_joinWith_cons] at hfuel ⊢
    rw [List.length_append, List.length_cons] at hfuel
    have hstart : dropSpaces ((Text.joinWith ","
          (memberText second :: members.map memberText)).toList ++ '\x7d' :: rest) =
        (Text.joinWith "," (memberText second :: members.map memberText)).toList ++
          '\x7d' :: rest := by
      obtain ⟨more, hmore⟩ := exists_toList_joinWith (memberText second) (members.map memberText)
      rw [hmore, toList_memberText]
      exact dropSpaces_cons rfl _
    rw [List.append_assoc, List.cons_append, readMembers_memberText hmember fuel _ (by omega)]
    change (readMembers fuel (dropSpaces _)).map _ = _
    rw [hstart, hshort (by omega) hnext hothers]
    rfl

/-- What is put together from keys and texts that denote values denotes the object of them. -/
theorem denotes_objectText (h : List.Forall₂ DenotesMember members pairs) :
    Denotes (objectText members) (.object pairs) where
  head := ⟨'\x7b', _, by simp [objectText]; rfl, rfl, by decide, by decide⟩
  reads fuel rest hfuel := by
    have htext : (objectText members).toList =
        '\x7b' :: (Text.joinWith "," (members.map memberText)).toList ++ ['\x7d'] := by
      simp [objectText, String.toList_append]
      rfl
    rw [htext] at hfuel ⊢
    simp only [List.length_append, List.length_cons, List.length_nil] at hfuel
    obtain ⟨fuel, rfl⟩ : ∃ less, fuel = less + 1 := ⟨fuel - 1, by omega⟩
    rw [List.cons_append, List.cons_append, List.append_assoc, List.singleton_append, readValue]
    cases h with
    | nil => rfl
    | @cons member pair members pairs hmember hmembers =>
      obtain ⟨joined, hjoined⟩ :=
        exists_toList_joinWith (memberText member) (members.map memberText)
      have hmember := readMembers_joinWith (.cons hmember hmembers) fuel rest (by omega)
      rw [List.map_cons] at hmember ⊢
      rw [hjoined, toList_memberText, List.cons_append, List.cons_append] at hmember ⊢
      rw [dropSpaces_cons rfl]
      exact congrArg (Option.map fun parts ↦ (object parts.1, parts.2)) hmember

/-! ### Whole texts -/

/-- A text that denotes a value is read as this value. -/
theorem Denotes.read_eq (h : Denotes text value) : read text = some value := by
  have hstart := h.dropSpaces_eq []
  have hvalue := h.reads (2 * text.toList.length + 2) [] (by omega)
  rw [List.append_nil] at hstart hvalue
  unfold read
  dsimp only
  rw [hstart, hvalue]
  rfl

end ColumnStore.Json
