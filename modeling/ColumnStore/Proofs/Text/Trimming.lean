import ColumnStore.Text.Blank
import Mathlib.Data.List.TakeWhile

/-!
# Blanks around a text

Trimming takes blanks off both ends and nothing else, so a text may have any blanks around it, and
trimming it a second time changes nothing. Letter case and trimming do not disturb each other.
-/

set_option autoImplicit false

namespace ColumnStore.Text

variable {front core back cs : List Char}

/-- Nothing but blanks. -/
def AreBlank (cs : List Char) : Prop := ∀ c ∈ cs, isBlank c = true

/-- No blank stands at either end. -/
def IsTrimmed (cs : List Char) : Prop :=
  (∀ c ∈ cs.head?, isBlank c = false) ∧ ∀ c ∈ cs.getLast?, isBlank c = false

-- the instances are named, since one that goes through all characters would be found
instance (cs : List Char) : Decidable (AreBlank cs) :=
  List.decidableBAll (fun c ↦ isBlank c = true) cs

instance (cs : List Char) : Decidable (IsTrimmed cs) :=
  @instDecidableAnd _ _ (Option.decidableForallMem _) (Option.decidableForallMem _)

/-- The characters with any blanks in front of them and behind them. -/
def Padded (core cs : List Char) : Prop :=
  ∃ front back, AreBlank front ∧ AreBlank back ∧ cs = front ++ core ++ back

theorem areBlank_nil : AreBlank [] := List.forall_mem_nil _

theorem padded_self (cs : List Char) : Padded cs cs :=
  ⟨[], [], areBlank_nil, areBlank_nil, by simp⟩

theorem dropBlanks_append (h : AreBlank front) (cs : List Char) :
    dropBlanks (front ++ cs) = dropBlanks cs :=
  List.dropWhile_append_of_pos h

theorem dropBlanks_of_areBlank (h : AreBlank cs) : dropBlanks cs = [] :=
  List.dropWhile_eq_nil_iff.mpr h

/-- Blanks behind characters stay unless all the characters are blank. -/
theorem dropBlanks_append_blanks (h : AreBlank back) (cs : List Char) :
    dropBlanks (cs ++ back) = if dropBlanks cs = [] then [] else dropBlanks cs ++ back := by
  unfold dropBlanks
  rw [List.dropWhile_append]
  by_cases hempty : cs.dropWhile isBlank = []
  · rw [if_pos hempty, if_pos (List.isEmpty_iff.mpr hempty)]
    exact dropBlanks_of_areBlank h
  · rw [if_neg hempty, if_neg fun hnone ↦ hempty (List.isEmpty_iff.mp hnone)]

/-- Trimming takes blanks off at both ends. -/
theorem padded_trimChars (cs : List Char) : Padded (trimChars cs) cs := by
  refine ⟨cs.takeWhile isBlank, ((dropBlanks cs).reverse.takeWhile isBlank).reverse,
    fun c ↦ List.mem_takeWhile_imp, fun c hc ↦ List.mem_takeWhile_imp (List.mem_reverse.mp hc), ?_⟩
  have hback : trimChars cs ++ ((dropBlanks cs).reverse.takeWhile isBlank).reverse =
      dropBlanks cs := by
    rw [trimChars, ← List.reverse_append]
    unfold dropBlanks
    rw [List.takeWhile_append_dropWhile, List.reverse_reverse]
  rw [List.append_assoc, hback]
  exact List.takeWhile_append_dropWhile.symm

/-- Blanks around a text do not matter to trimming. -/
theorem trimChars_of_padded (h : Padded core cs) : trimChars cs = trimChars core := by
  obtain ⟨front, back, hfront, hback, rfl⟩ := h
  rw [trimChars, List.append_assoc, dropBlanks_append hfront, dropBlanks_append_blanks hback]
  by_cases hempty : dropBlanks core = []
  · rw [if_pos hempty, trimChars, hempty]
  · have hbehind : AreBlank back.reverse := fun c hc ↦ hback c (List.mem_reverse.mp hc)
    rw [if_neg hempty, List.reverse_append, dropBlanks_append hbehind, trimChars]

theorem trimChars_trimChars (cs : List Char) : trimChars (trimChars cs) = trimChars cs :=
  (trimChars_of_padded (padded_trimChars cs)).symm

/-- Where no blank stands at an end, nothing is taken off. -/
theorem dropBlanks_of_head (h : ∀ c ∈ cs.head?, isBlank c = false) : dropBlanks cs = cs := by
  cases cs with
  | nil => rfl
  | cons c cs => exact List.dropWhile_cons_of_neg (by simp [h c rfl])

theorem trimChars_of_isTrimmed (h : IsTrimmed cs) : trimChars cs = cs := by
  have hbehind : ∀ c ∈ cs.reverse.head?, isBlank c = false := by
    rw [List.head?_reverse]
    exact h.2
  rw [trimChars, dropBlanks_of_head h.1, dropBlanks_of_head hbehind, List.reverse_reverse]

/-- Nothing is left where there is nothing but blanks, and only there. -/
theorem trimChars_eq_nil_iff : trimChars cs = [] ↔ AreBlank cs := by
  constructor
  · intro h
    obtain ⟨front, back, hfront, hback, hcs⟩ := padded_trimChars cs
    rw [h, List.append_nil] at hcs
    rw [hcs]
    exact List.forall_mem_append.mpr ⟨hfront, hback⟩
  · intro h
    have hpadded : Padded [] cs := ⟨cs, [], h, areBlank_nil, by simp⟩
    exact trimChars_of_padded hpadded

/-- Trimming adds nothing. -/
theorem mem_of_mem_trimChars {c : Char} (h : c ∈ trimChars cs) : c ∈ cs := by
  obtain ⟨front, back, -, -, hcs⟩ := padded_trimChars cs
  rw [hcs]
  exact List.mem_append_left _ (List.mem_append_right _ h)

/-- Blanks around a text add nothing but blanks. -/
theorem Padded.mem {c : Char} (h : Padded core cs) (hc : c ∈ cs) : c ∈ core ∨ isBlank c = true := by
  obtain ⟨front, back, hfront, hback, rfl⟩ := h
  rcases List.mem_append.mp hc with hinner | hbehind
  · exact (List.mem_append.mp hinner).symm.imp id (hfront c)
  · exact .inr (hback c hbehind)

/-- What is no blank is there after trimming if it was there before. -/
theorem mem_trimChars_iff {c : Char} (h : isBlank c = false) : c ∈ trimChars cs ↔ c ∈ cs := by
  refine ⟨mem_of_mem_trimChars, fun hmem ↦ ?_⟩
  refine ((padded_trimChars cs).mem hmem).resolve_right ?_
  simp [h]

/-! ### Letter case -/

/-- A letter in upper case has the code of the one in lower case, less 32. -/
theorem toLower_cases (c : Char) :
    c.toLower = c ∨ (65 ≤ c.toNat ∧ c.toNat ≤ 90 ∧ c.toLower.toNat = c.toNat + 32) := by
  unfold Char.toLower
  split
  · rename_i h
    simp only [UInt32.le_iff_toNat_le] at h
    refine .inr ⟨h.1, h.2, ?_⟩
    have hgreatest : c.val.toNat ≤ 90 := h.2
    change (c.val + 32).toNat = c.val.toNat + 32
    rw [UInt32.toNat_add]
    simp only [UInt32.reduceToNat]
    omega
  · exact .inl rfl

theorem toLower_toLower (c : Char) : c.toLower.toLower = c.toLower := by
  rcases toLower_cases c with hsame | ⟨hleast, hgreatest, hcode⟩
  · rw [hsame, hsame]
  · rcases toLower_cases c.toLower with hsame | ⟨-, hbelow, -⟩
    · exact hsame
    · omega

/-- A character in front of the letters has the same places in lower case. -/
theorem mem_map_toLower_iff {c : Char} (h : c.toNat < 65) : c ∈ cs.map Char.toLower ↔ c ∈ cs := by
  rw [List.mem_map]
  constructor
  · rintro ⟨letter, hletter, rfl⟩
    rcases toLower_cases letter with hsame | ⟨hleast, -, hcode⟩
    · rwa [hsame]
    · omega
  · intro hmem
    refine ⟨c, hmem, ?_⟩
    rcases toLower_cases c with hsame | ⟨hleast, -, -⟩
    · exact hsame
    · omega

/-- Only letters have a lower case, and letters are not blank. -/
theorem isBlank_toLower (c : Char) : isBlank c.toLower = isBlank c := by
  rcases toLower_cases c with hsame | ⟨hleast, hgreatest, hcode⟩
  · rw [hsame]
  · have hletter : ∀ {letter : Char}, 65 ≤ letter.toNat → letter.toNat ≤ 122 →
        isBlank letter = false := by
      intro letter hfirst hlast
      simp only [isBlank, Bool.or_eq_false_iff, Bool.and_eq_false_imp, decide_eq_true_eq,
        decide_eq_false_iff_not, beq_eq_false_iff_ne]
      omega
    rw [hletter (by omega) (by omega), hletter hleast (by omega)]

theorem dropBlanks_map_toLower (cs : List Char) :
    dropBlanks (cs.map Char.toLower) = (dropBlanks cs).map Char.toLower := by
  have hblank : isBlank ∘ Char.toLower = isBlank := funext isBlank_toLower
  rw [dropBlanks, List.dropWhile_map, hblank]
  rfl

theorem trimChars_map_toLower (cs : List Char) :
    trimChars (cs.map Char.toLower) = (trimChars cs).map Char.toLower := by
  rw [trimChars, dropBlanks_map_toLower, ← List.map_reverse, dropBlanks_map_toLower,
    ← List.map_reverse]
  rfl

end ColumnStore.Text
