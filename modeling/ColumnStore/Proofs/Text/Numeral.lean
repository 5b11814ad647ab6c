import ColumnStore.Proofs.Text.Trimming
import ColumnStore.Text.Numeral
import Mathlib.Data.Nat.Basic

/-!
# Reading numerals back

A whole number that is written in decimal is read as itself by every reader whose range it lies in.
Numerals, decimal literals and the two truth values are made of a few plain characters, none of them
blank, so nothing is lost when the blanks around them are.
-/

set_option autoImplicit false

namespace ColumnStore.Text

/-! ### Digits -/

theorem natOfDigits_toDigits (n : Nat) : natOfDigits (Nat.toDigits 10 n) = n :=
  Nat.ofDigitChars_toDigits (by decide) (by decide)

theorem isDigits_toDigits (n : Nat) : isDigits (Nat.toDigits 10 n) = true := by
  have hdigits : ∀ c ∈ Nat.toDigits 10 n, c.isDigit = true :=
    fun c ↦ Nat.isDigit_of_mem_toDigits (by decide) (by decide)
  have hne : (Nat.toDigits 10 n).isEmpty = false :=
    List.isEmpty_eq_false_iff.mpr Nat.toDigits_ne_nil
  rw [isDigits, hne, List.all_eq_true.mpr hdigits]
  rfl

/-- A row of digits has no sign in front. -/
theorem takeSign_of_isDigits {cs : List Char} (h : isDigits cs = true) :
    takeSign cs = (false, cs) := by
  unfold takeSign
  split
  · simp [isDigits] at h
  · simp [isDigits] at h
  · rfl

theorem readInteger_of_isDigits {cs : List Char} (h : isDigits cs = true) :
    readInteger cs = some (natOfDigits cs : Int) := by
  have hread : readNat cs = some (natOfDigits cs) := if_pos h
  simp [readInteger, takeSign_of_isDigits h, hread, signed]

theorem readInteger_cons_minus {cs : List Char} (h : isDigits cs = true) :
    readInteger ('-' :: cs) = some (-(natOfDigits cs : Int)) := by
  have hread : readNat cs = some (natOfDigits cs) := if_pos h
  simp [readInteger, takeSign, hread, signed]

/-- A number is written with its digits, behind a minus sign if it is negative. -/
theorem toList_toString (n : Int) :
    (toString n).toList =
      if 0 ≤ n then Nat.toDigits 10 n.toNat else '-' :: Nat.toDigits 10 (-n).toNat := by
  rw [Int.toString_eq_repr, Int.repr_eq_if]
  split <;> simp [Nat.repr_eq_ofList_toDigits, String.toList_append]

/-- A number that is written in decimal is read as itself. -/
theorem readInteger_toString (n : Int) : readInteger (toString n).toList = some n := by
  rw [toList_toString]
  split
  · rename_i hn
    rw [readInteger_of_isDigits (isDigits_toDigits _), natOfDigits_toDigits, Int.toNat_of_nonneg hn]
  · rename_i hn
    rw [readInteger_cons_minus (isDigits_toDigits _), natOfDigits_toDigits,
      Int.toNat_of_nonneg (by omega), Int.neg_neg]

/-- A number that a word of `bits` bits holds is read as itself. -/
theorem readWord_toString {bits : Nat} {n : Int} (hleast : -(Nat.pow 2 (bits - 1) : Int) ≤ n)
    (hgreatest : n < (Nat.pow 2 (bits - 1) : Int)) :
    readWord bits (toString n).toList = some n := by
  rw [readWord, readWithin, readInteger_toString, Option.filter_some, if_pos]
  exact decide_eq_true ⟨hleast, Int.le_sub_one_of_lt hgreatest⟩

/-! ### Plain characters -/

/-- The characters of numerals, of decimal literals and of the truth values. -/
def isPlain (c : Char) : Bool :=
  c.isDigit || c.isLower || c == '+' || c == '-' || c == '.'

theorem isPlain_of_isDigit {c : Char} (h : c.isDigit = true) : isPlain c = true := by
  simp [isPlain, h]

/-- A plain character is neither blank nor a control character, and no backslash. -/
theorem toNat_of_isPlain {c : Char} (h : isPlain c = true) :
    (43 ≤ c.toNat ∧ c.toNat ≤ 57) ∨ (97 ≤ c.toNat ∧ c.toNat ≤ 122) := by
  simp only [isPlain, Bool.or_eq_true, beq_iff_eq] at h
  rcases h with (((h | h) | rfl) | rfl) | rfl
  · simp only [Char.isDigit, Bool.and_eq_true, decide_eq_true_eq, UInt32.le_iff_toNat_le] at h
    exact .inl ⟨Nat.le_trans (by decide) h.1, h.2⟩
  · unfold Char.isLower at h
    simp only [Bool.and_eq_true, decide_eq_true_eq, UInt32.le_iff_toNat_le] at h
    exact .inr h
  · exact .inl (by decide)
  · exact .inl (by decide)
  · exact .inl (by decide)

theorem isBlank_of_isPlain {c : Char} (h : isPlain c = true) : isBlank c = false := by
  have hrange := toNat_of_isPlain h
  simp only [isBlank, Bool.or_eq_false_iff, Bool.and_eq_false_imp, decide_eq_true_eq,
    decide_eq_false_iff_not, beq_eq_false_iff_ne]
  omega

/-- Trimming leaves characters as they are if none of them is blank. -/
theorem trimChars_of_not_blank {cs : List Char} (h : ∀ c ∈ cs, isBlank c = false) :
    trimChars cs = cs := by
  refine trimChars_of_isTrimmed ⟨fun c hc ↦ ?_, fun c hc ↦ ?_⟩
  · exact h c (List.mem_of_head? hc)
  · exact h c (List.mem_of_getLast? hc)

theorem trimChars_of_isPlain {cs : List Char} (h : ∀ c ∈ cs, isPlain c = true) :
    trimChars cs = cs :=
  trimChars_of_not_blank fun c hc ↦ isBlank_of_isPlain (h c hc)

/-- A number in decimal is made of plain characters. -/
theorem isPlain_of_mem_toString {n : Int} {c : Char} (h : c ∈ (toString n).toList) :
    isPlain c = true := by
  have hdigit : ∀ m, c ∈ Nat.toDigits 10 m → isPlain c = true := fun m hmem ↦
    isPlain_of_isDigit (Nat.isDigit_of_mem_toDigits (by decide) (by decide) hmem)
  rw [toList_toString] at h
  split at h
  · exact hdigit _ h
  · rcases List.mem_cons.mp h with rfl | hrest
    · rfl
    · exact hdigit _ hrest

theorem toString_ne_nil (n : Int) : (toString n).toList ≠ [] := by
  rw [toList_toString]
  split
  · exact Nat.toDigits_ne_nil
  · exact List.cons_ne_nil _ _

/-! ### Hexadecimal numbers -/

theorem hexValue?_digitChar : ∀ digit < 16, hexValue? (Nat.digitChar digit) = some digit := by
  decide

/-- One more digit behind a row of digits. -/
theorem readHex_append_singleton {cs : List Char} {n digit : Nat} {c : Char}
    (hcs : readHex cs = some n) (hc : hexValue? c = some digit) :
    readHex (cs ++ [c]) = some (16 * n + digit) := by
  unfold readHex at hcs ⊢
  rw [List.foldlM_append, hcs]
  simp [hc]

/-- A number that is written in hexadecimal is read as itself. -/
theorem readHex_toDigits (n : Nat) : readHex (Nat.toDigits 16 n) = some n := by
  induction n using Nat.strong_induction_on with
  | _ n ih =>
    by_cases hn : n < 16
    · rw [Nat.toDigits_of_lt_base hn]
      simp [readHex, hexValue?_digitChar n hn]
    · have hdigit : n % 16 < 16 := Nat.mod_lt _ (by decide)
      rw [Nat.toDigits_of_base_le (by decide) (by omega),
        readHex_append_singleton (ih (n / 16) (by omega)) (hexValue?_digitChar _ hdigit),
        Nat.div_add_mod]

/-- Zeros in front do not count. -/
theorem readHex_hexDigits (width n : Nat) : readHex (hexDigits width n).toList = some n := by
  rw [hexDigits, padded, String.toList_ofList]
  induction width - (Nat.toDigits 16 n).length with
  | zero => exact readHex_toDigits n
  | succ count ih => exact ih

/-- What is read as a hexadecimal number is made of hexadecimal digits. -/
theorem isSome_hexValue?_of_readHex {cs : List Char} {n : Nat} (h : readHex cs = some n) :
    ∀ c ∈ cs, (hexValue? c).isSome := by
  unfold readHex at h
  generalize 0 = start at h
  induction cs generalizing start with
  | nil => exact List.forall_mem_nil _
  | cons c cs ih =>
    rw [List.foldlM_cons] at h
    obtain ⟨next, hnext, hrest⟩ := Option.bind_eq_some_iff.mp h
    obtain ⟨digit, hdigit, -⟩ := Option.map_eq_some_iff.mp hnext
    exact List.forall_mem_cons.mpr ⟨by rw [hdigit]; rfl, ih next hrest⟩

end ColumnStore.Text
