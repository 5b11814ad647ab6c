import ColumnStore.Proofs.Text.Numeral
import Mathlib.Algebra.Order.Ring.Int
import Mathlib.Data.List.Basic

/-!
# Rows of digits

A row of ASCII digits denotes a number below the power of ten that its length gives. Leading zeros
do not count, so a number that is filled up to a width is still itself, and what is left of a row
after its last digits are cut off is the number divided by a power of ten.
-/

set_option autoImplicit false

namespace ColumnStore.Text

variable {digits rest : List Char} {n width : Nat}

/-- Nothing but ASCII digits. -/
def AreDigits (cs : List Char) : Prop := ∀ c ∈ cs, c.isDigit = true

theorem isDigits_iff : isDigits digits = true ↔ digits ≠ [] ∧ AreDigits digits := by
  rw [isDigits, Bool.and_eq_true, Bool.not_eq_true', List.isEmpty_eq_false_iff, List.all_eq_true]
  rfl

/-- The point is no digit. -/
theorem AreDigits.point_not_mem (h : AreDigits digits) : '.' ∉ digits :=
  fun hmem ↦ absurd (h _ hmem) (by decide)

theorem AreDigits.take (h : AreDigits digits) (n : Nat) : AreDigits (digits.take n) :=
  fun c hc ↦ h c (List.mem_of_mem_take hc)

theorem AreDigits.drop (h : AreDigits digits) (n : Nat) : AreDigits (digits.drop n) :=
  fun c hc ↦ h c (List.mem_of_mem_drop hc)

/-! ### The number that is denoted -/

theorem natOfDigits_append (front back : List Char) :
    natOfDigits (front ++ back) = 10 ^ back.length * natOfDigits front + natOfDigits back :=
  (Nat.ofDigitChars_append 0).trans Nat.ofDigitChars_eq_ofDigitChars_zero

theorem natOfDigits_lt (h : AreDigits digits) : natOfDigits digits < 10 ^ digits.length := by
  induction digits with
  | nil => decide
  | cons c digits ih =>
    obtain ⟨hc, hdigits⟩ := List.forall_mem_cons.mp h
    have hfirst : natOfDigits [c] ≤ 9 := by
      have hgreatest : c.toNat ≤ 57 := (Char.isDigit_iff_toNat.mp hc).2
      have hvalue : natOfDigits [c] = c.toNat - 48 := Nat.zero_add _
      omega
    have hrest := ih hdigits
    calc natOfDigits ([c] ++ digits)
        = 10 ^ digits.length * natOfDigits [c] + natOfDigits digits := natOfDigits_append _ _
      _ < 10 ^ digits.length * natOfDigits [c] + 10 ^ digits.length := by omega
      _ = 10 ^ digits.length * (natOfDigits [c] + 1) := (Nat.mul_succ _ _).symm
      _ ≤ 10 ^ digits.length * 10 := Nat.mul_le_mul_left _ (by omega)
      _ = 10 ^ (c :: digits).length := (pow_succ _ _).symm

/-- Cutting off the last digits divides by a power of ten. -/
theorem natOfDigits_take (h : AreDigits digits) (n : Nat) :
    natOfDigits (digits.take n) = natOfDigits digits / 10 ^ (digits.length - n) := by
  have hsplit : natOfDigits digits =
      10 ^ (digits.length - n) * natOfDigits (digits.take n) + natOfDigits (digits.drop n) := by
    rw [← List.length_drop, ← natOfDigits_append, List.take_append_drop]
  have hrest : natOfDigits (digits.drop n) < 10 ^ (digits.length - n) := by
    rw [← List.length_drop]
    exact natOfDigits_lt (h.drop n)
  rw [hsplit, Nat.mul_add_div (Nat.pow_pos (by decide)), Nat.div_eq_of_lt hrest, Nat.add_zero]

/-! ### Numbers with a fixed count of digits -/

/-- The row of digits has a length and denotes a number. -/
structure IsNumeral (width n : Nat) (digits : List Char) : Prop where
  areDigits : AreDigits digits
  length : digits.length = width
  value : natOfDigits digits = n

theorem IsNumeral.ne_nil (h : IsNumeral width n digits) (hwidth : 0 < width) : digits ≠ [] :=
  List.ne_nil_of_length_pos (h.length ▸ hwidth)

theorem IsNumeral.head (h : IsNumeral width n digits) (hwidth : 0 < width) :
    ∀ c ∈ (digits ++ rest).head?, c.isDigit = true := by
  rw [List.head?_append_of_ne_nil digits (h.ne_nil hwidth)]
  exact fun c hc ↦ h.areDigits c (List.mem_of_head? hc)

/-- No blank stands in front of digits. -/
theorem IsNumeral.dropBlanks_append (h : IsNumeral width n digits) (hwidth : 0 < width) :
    dropBlanks (digits ++ rest) = digits ++ rest :=
  dropBlanks_of_head fun c hc ↦ isBlank_of_isPlain (isPlain_of_isDigit (h.head hwidth c hc))

/-- A number is written with as many digits as are asked for, if that many are enough. -/
theorem isNumeral_decimalDigits (hwidth : 0 < width) (h : n < 10 ^ width) :
    IsNumeral width n (decimalDigits width n).toList := by
  have hlength : (Nat.toDigits 10 n).length ≤ width :=
    (Nat.length_toDigits_le_iff (by decide) hwidth).mpr h
  rw [decimalDigits, String.toList_ofList, padded]
  constructor
  · refine List.forall_mem_append.mpr ⟨fun c hc ↦ ?_, (isDigits_iff.mp (isDigits_toDigits n)).2⟩
    rw [List.eq_of_mem_replicate hc]
    rfl
  · rw [List.length_append, List.length_replicate, Nat.sub_add_cancel hlength]
  · have hzeros : natOfDigits (List.replicate (width - (Nat.toDigits 10 n).length) '0') = 0 :=
      Nat.ofDigitChars_replicate_zero
    rw [natOfDigits_append, hzeros, natOfDigits_toDigits, Nat.mul_zero, Nat.zero_add]

end ColumnStore.Text
