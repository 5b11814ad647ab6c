/-!
# Cutting text at separators

A text is cut at its first separator, at its last one, or at all of them. Each cut loses the
separators and nothing else. `joinWith` puts pieces together again.
-/

set_option autoImplicit false

namespace ColumnStore.Text

/-- The characters before and after the first `separator`, if there is one. -/
def cutFirst (separator : Char) : List Char → Option (List Char × List Char)
  | [] => none
  | c :: rest =>
    if c = separator then some ([], rest)
    else (cutFirst separator rest).map fun parts ↦ (c :: parts.1, parts.2)

/-- The characters before and after the last `separator`, if there is one. -/
def cutLast (separator : Char) (cs : List Char) : Option (List Char × List Char) :=
  (cutFirst separator cs.reverse).map fun parts ↦ (parts.2.reverse, parts.1.reverse)

/-- The pieces between separators: always one more than there are separators. -/
def pieces (separator : Char) : List Char → List (List Char)
  | [] => [[]]
  | c :: rest =>
    if c = separator then [] :: pieces separator rest
    else
      match pieces separator rest with
      | [] => [[c]]
      | piece :: others => (c :: piece) :: others

/-- The text before and after the first `separator`. -/
def splitFirst (separator : Char) (text : String) : Option (String × String) :=
  (cutFirst separator text.toList).map fun parts ↦
    (String.ofList parts.1, String.ofList parts.2)

/-- The text before and after the last `separator`. -/
def splitLast (separator : Char) (text : String) : Option (String × String) :=
  (cutLast separator text.toList).map fun parts ↦
    (String.ofList parts.1, String.ofList parts.2)

/-- The texts between separators. -/
def splitAll (separator : Char) (text : String) : List String :=
  (pieces separator text.toList).map String.ofList

/-- The texts put one behind the other with `separator` between. -/
def joinWith (separator : String) : List String → String
  | [] => ""
  | [text] => text
  | text :: rest => text ++ separator ++ joinWith separator rest

/-- The part of a text after its last `separator`, or all of it if there is none. -/
def afterLast (separator : Char) (text : String) : String :=
  match splitLast separator text with
  | some parts => parts.2
  | none => text

/-- The text with its ASCII letters in lower case. -/
def lowerAscii (text : String) : String :=
  String.ofList (text.toList.map Char.toLower)

/-- Equality of texts up to the case of ASCII letters. -/
def sameIgnoringCase (first second : String) : Bool :=
  first.toList.map Char.toLower == second.toList.map Char.toLower

/-- Does `text` begin with `start`? -/
def beginsWith (start text : String) : Bool :=
  start.toList.isPrefixOf text.toList

/-- Does `text` end with `tail`? -/
def finishesWith (tail text : String) : Bool :=
  tail.toList.isSuffixOf text.toList

/-- Does `part` occur in `cs` as a run of consecutive characters? -/
def occursIn (part : List Char) : List Char → Bool
  | [] => part.isEmpty
  | c :: rest => part.isPrefixOf (c :: rest) || occursIn part rest

/-- Does `part` occur somewhere in `text`? -/
def contains (part text : String) : Bool :=
  occursIn part.toList text.toList

theorem cutFirst_eq_some {separator : Char} {cs before after : List Char}
    (h : cutFirst separator cs = some (before, after)) :
    cs = before ++ separator :: after ∧ separator ∉ before := by
  induction cs generalizing before with
  | nil => simp [cutFirst] at h
  | cons c rest ih =>
    simp only [cutFirst] at h
    split at h
    · rename_i hc
      simp only [Option.some.injEq, Prod.mk.injEq] at h
      obtain ⟨rfl, rfl⟩ := h
      simp [hc]
    · rename_i hc
      simp only [Option.map_eq_some_iff] at h
      obtain ⟨⟨front, back⟩, hcut, heq⟩ := h
      simp only [Prod.mk.injEq] at heq
      obtain ⟨rfl, rfl⟩ := heq
      obtain ⟨hrest, hmem⟩ := ih hcut
      exact ⟨by rw [hrest]; rfl, by simp [hmem, Ne.symm hc]⟩

/-- A text is cut at a separator that has none in front of it. -/
theorem cutFirst_append_cons {separator : Char} {before : List Char} (h : separator ∉ before)
    (after : List Char) :
    cutFirst separator (before ++ separator :: after) = some (before, after) := by
  induction before with
  | nil => simp [cutFirst]
  | cons c before ih =>
    obtain ⟨hc, hbefore⟩ := not_or.mp fun hmem ↦ h (List.mem_cons.mpr hmem)
    rw [List.cons_append, cutFirst, if_neg (Ne.symm hc), ih hbefore]
    rfl

/-- A text is cut at a separator that has none behind it. -/
theorem splitLast_append {separator : Char} {back : String} (h : separator ∉ back.toList)
    (front : String) :
    splitLast separator (front ++ String.singleton separator ++ back) = some (front, back) := by
  have hreverse : separator ∉ back.toList.reverse := fun hmem ↦ h (List.mem_reverse.mp hmem)
  have hcut := cutFirst_append_cons hreverse front.toList.reverse
  simp [splitLast, cutLast, hcut]

/-- What is left behind a separator is shorter than the whole. -/
theorem length_lt_of_cutFirst {separator : Char} {cs before after : List Char}
    (h : cutFirst separator cs = some (before, after)) : after.length < cs.length := by
  rw [(cutFirst_eq_some h).1]
  simp
  omega

theorem pieces_ne_nil (separator : Char) (cs : List Char) : pieces separator cs ≠ [] := by
  cases cs with
  | nil => simp [pieces]
  | cons c rest =>
    simp only [pieces]
    split
    · simp
    · split <;> simp

end ColumnStore.Text
