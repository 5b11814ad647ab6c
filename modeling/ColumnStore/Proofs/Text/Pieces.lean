import ColumnStore.Text.Cut

/-!
# Pieces of texts that were joined

Cutting a text at its separators undoes joining if there are as many pieces as texts that were
joined. There are never less, since each text gives a piece at least, and there are more if the
separator stands in one of the texts. A text that is cut at its first separator is what was in front
of it and what was behind it.
-/

set_option autoImplicit false

namespace ColumnStore.Text

variable {separator : Char}

/-- A separator parts the pieces in front of it from those behind it. -/
theorem pieces_append_cons (front back : List Char) :
    pieces separator (front ++ separator :: back) =
      pieces separator front ++ pieces separator back := by
  induction front with
  | nil => simp [pieces]
  | cons c front ih =>
    rw [List.cons_append, pieces, pieces, ih]
    by_cases hc : c = separator
    · rw [if_pos hc, if_pos hc, List.cons_append]
    · rw [if_neg hc, if_neg hc]
      cases hfront : pieces separator front with
      | nil => exact absurd hfront (pieces_ne_nil separator front)
      | cons piece others => rfl

/-- A text in one piece is that piece. -/
theorem pieces_eq_singleton {cs : List Char} (h : (pieces separator cs).length = 1) :
    pieces separator cs = [cs] := by
  induction cs with
  | nil => rfl
  | cons c cs ih =>
    rw [pieces] at h ⊢
    by_cases hc : c = separator
    · rw [if_pos hc, List.length_cons] at h
      have hpieces := List.length_pos_iff.mpr (pieces_ne_nil separator cs)
      omega
    · rw [if_neg hc] at h ⊢
      cases hrest : pieces separator cs with
      | nil => exact absurd hrest (pieces_ne_nil separator cs)
      | cons piece others =>
        rw [hrest] at h ih
        have hone : (piece :: others).length = 1 := h
        obtain ⟨rfl, rfl⟩ := List.cons.inj (ih hone)
        rfl

/-- A text without the separator is in one piece. -/
theorem pieces_of_not_mem {cs : List Char} (h : separator ∉ cs) : pieces separator cs = [cs] := by
  induction cs with
  | nil => rfl
  | cons c cs ih =>
    obtain ⟨hc, hcs⟩ := not_or.mp fun hmem ↦ h (List.mem_cons.mpr hmem)
    rw [pieces, if_neg (Ne.symm hc), ih hcs]

/-- The separator stands in no piece. -/
theorem not_mem_of_mem_pieces {cs piece : List Char} (h : piece ∈ pieces separator cs) :
    separator ∉ piece := by
  induction cs generalizing piece with
  | nil =>
    rw [List.mem_singleton.mp h]
    exact List.not_mem_nil
  | cons c cs ih =>
    rw [pieces] at h
    by_cases hc : c = separator
    · rw [if_pos hc] at h
      rcases List.mem_cons.mp h with rfl | hrest
      · exact List.not_mem_nil
      · exact ih hrest
    · rw [if_neg hc] at h
      cases hrest : pieces separator cs with
      | nil => exact absurd hrest (pieces_ne_nil separator cs)
      | cons first others =>
        rw [hrest] at h ih
        rcases List.mem_cons.mp h with rfl | hother
        · exact fun hmem ↦ (List.mem_cons.mp hmem).elim (fun heq ↦ hc heq.symm)
            (ih List.mem_cons_self)
        · exact ih (List.mem_cons_of_mem _ hother)

theorem splitAll_append (first second : String) :
    splitAll separator (first ++ String.singleton separator ++ second) =
      splitAll separator first ++ splitAll separator second := by
  unfold splitAll
  rw [← List.map_append, ← pieces_append_cons]
  simp [String.toList_append]

theorem length_splitAll_pos (text : String) : 0 < (splitAll separator text).length := by
  rw [splitAll, List.length_map]
  exact List.length_pos_iff.mpr (pieces_ne_nil separator text.toList)

theorem splitAll_eq_singleton {text : String} (h : (splitAll separator text).length = 1) :
    splitAll separator text = [text] := by
  rw [splitAll, List.length_map] at h
  rw [splitAll, pieces_eq_singleton h, List.map_singleton, String.ofList_toList]

theorem splitAll_joinWith_cons (first second : String) (rest : List String) :
    splitAll separator (joinWith (String.singleton separator) (first :: second :: rest)) =
      splitAll separator first ++
        splitAll separator (joinWith (String.singleton separator) (second :: rest)) :=
  splitAll_append first _

/-- There are at least as many pieces as texts that were joined. -/
theorem length_le_splitAll_joinWith (texts : List String) :
    texts.length ≤
      (splitAll separator (joinWith (String.singleton separator) texts)).length := by
  induction texts with
  | nil => exact Nat.zero_le _
  | cons text texts ih =>
    cases texts with
    | nil => exact length_splitAll_pos text
    | cons second texts =>
      have hpos : 0 < (splitAll separator text).length := length_splitAll_pos text
      rw [splitAll_joinWith_cons, List.length_append, List.length_cons]
      omega

/-- If there are only as many pieces as texts that were joined, the pieces are the texts. -/
theorem splitAll_joinWith {texts : List String} (htexts : texts ≠ [])
    (h : (splitAll separator (joinWith (String.singleton separator) texts)).length =
      texts.length) :
    splitAll separator (joinWith (String.singleton separator) texts) = texts := by
  induction texts with
  | nil => exact absurd rfl htexts
  | cons text texts ih =>
    cases texts with
    | nil => exact splitAll_eq_singleton h
    | cons second texts =>
      have hpos : 0 < (splitAll separator text).length := length_splitAll_pos text
      have hrest := @length_le_splitAll_joinWith separator (second :: texts)
      rw [splitAll_joinWith_cons, List.length_append, List.length_cons] at h
      rw [splitAll_joinWith_cons, ih (List.cons_ne_nil _ _) (by omega),
        splitAll_eq_singleton (by omega), List.singleton_append]

/-- Texts without the separator are the pieces of what they are joined to. -/
theorem splitAll_joinWith_of_not_mem {texts : List String} (htexts : texts ≠ [])
    (h : ∀ text ∈ texts, separator ∉ text.toList) :
    splitAll separator (joinWith (String.singleton separator) texts) = texts := by
  have hone : ∀ text ∈ texts, splitAll separator text = [text] := fun text hmem ↦ by
    rw [splitAll, pieces_of_not_mem (h text hmem), List.map_singleton, String.ofList_toList]
  clear h
  induction texts with
  | nil => exact absurd rfl htexts
  | cons text texts ih =>
    obtain ⟨htext, hrest⟩ := List.forall_mem_cons.mp hone
    cases texts with
    | nil => exact htext
    | cons second texts =>
      rw [splitAll_joinWith_cons, htext, ih (List.cons_ne_nil _ _) hrest, List.singleton_append]

/-- The separator stands in none of the texts that a text is cut into. -/
theorem not_mem_of_mem_splitAll {text piece : String} (h : piece ∈ splitAll separator text) :
    separator ∉ piece.toList := by
  obtain ⟨cs, hcs, rfl⟩ := List.mem_map.mp h
  rw [String.toList_ofList]
  exact not_mem_of_mem_pieces hcs

/-! ### The first separator -/

theorem cutFirst_eq_none {cs : List Char} (h : separator ∉ cs) : cutFirst separator cs = none := by
  cases hcut : cutFirst separator cs with
  | none => rfl
  | some parts =>
    have hcs := (cutFirst_eq_some hcut).1
    rw [hcs] at h
    simp at h

/-- Behind the first separator of a text there may as well be another text. -/
theorem splitFirst_of_splitFirst {text front back : String}
    (h : splitFirst separator text = some (front, back)) (other : String) :
    splitFirst separator (front ++ String.singleton separator ++ other) = some (front, other) := by
  obtain ⟨parts, hcut, hparts⟩ := Option.map_eq_some_iff.mp h
  obtain ⟨rfl, -⟩ := Prod.mk.inj hparts
  simp [splitFirst, cutFirst_append_cons (cutFirst_eq_some hcut).2]

theorem eq_of_splitFirst {text front back : String}
    (h : splitFirst separator text = some (front, back)) :
    text = front ++ String.singleton separator ++ back := by
  obtain ⟨parts, hcut, hparts⟩ := Option.map_eq_some_iff.mp h
  obtain ⟨rfl, rfl⟩ := Prod.mk.inj hparts
  rw [← String.toList_inj]
  simp [(cutFirst_eq_some hcut).1]

end ColumnStore.Text
