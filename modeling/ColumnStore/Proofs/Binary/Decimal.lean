import ColumnStore.Proofs.Binary.Nearest
import Mathlib.Tactic.NormNum.Pow

/-!
# The floating-point number nearest to a decimal

`Binary.value` is the exact number that a word stands for, and `Binary.IsNearest` says what it means
to be rounded correctly: no other word is nearer, and of two that are equally near the even one is
taken. `Binary.isNearest_ofDecimal` shows that a decimal of any length is rounded correctly.

Rounding to the nearest number never turns two numbers around, but it may make them equal:
`Binary.IsNearest.value_le` and `Binary.IsNearest.value_unique`.
-/

set_option autoImplicit false

namespace ColumnStore

/-- A size with its sign. -/
def signedRatio (negative : Bool) (size : ℚ) : ℚ :=
  if negative then -size else size

@[simp] theorem signedRatio_false (size : ℚ) : signedRatio false size = size := rfl

@[simp] theorem signedRatio_true (size : ℚ) : signedRatio true size = -size := rfl

/-- Sizes of one sign are as far apart as they are without it. -/
theorem abs_signedRatio_sub (negative : Bool) (s t : ℚ) :
    |signedRatio negative s - signedRatio negative t| = |s - t| := by
  cases negative
  · rfl
  · show |(-s) - (-t)| = _
    rw [neg_sub_neg, abs_sub_comm]

/-- Sizes of different signs are as far apart as their sum. -/
theorem abs_signedRatio_sub_not (negative : Bool) {s t : ℚ} (hs : 0 ≤ s) (ht : 0 ≤ t) :
    |signedRatio negative s - signedRatio (!negative) t| = s + t := by
  cases negative
  · show |s - -t| = _
    rw [sub_neg_eq_add, abs_of_nonneg (by linarith)]
  · show |(-s) - t| = _
    rw [show -s - t = -(s + t) by ring, abs_neg, abs_of_nonneg (by linarith)]

namespace Format

variable {format : Format} {word : Nat}

/-- The word of infinity leaves the sign bit free. -/
theorem infinityWord_lt_signBit (format : Format) : format.infinityWord < format.signBit := by
  have hpos : 0 < 2 ^ format.fractionBits := Nat.two_pow_pos _
  have hexponent : 0 < 2 ^ format.exponentBits := Nat.two_pow_pos _
  show (2 ^ format.exponentBits - 1) * 2 ^ format.fractionBits <
    2 ^ (format.exponentBits + format.fractionBits)
  rw [Nat.pow_add]
  exact Nat.mul_lt_mul_of_pos_right (by omega) hpos

/-- With its leading bit a word has twice the size of the sign bit. -/
theorem two_pow_width (format : Format) : 2 ^ format.width = 2 * format.signBit := by
  show 2 ^ (1 + format.exponentBits + format.fractionBits) =
    2 * 2 ^ (format.exponentBits + format.fractionBits)
  rw [Nat.add_assoc, Nat.pow_add, Nat.pow_one]

/-- The number that would follow the largest one is a power of two. -/
theorem units_infinityWord (hbits : 0 < format.exponentBits) :
    (format.units format.infinityWord * 2 ^ format.leastExponent : ℚ) =
      2 ^ 2 ^ (format.exponentBits - 1) := by
  have hpos : 0 < 2 ^ format.fractionBits := Nat.two_pow_pos _
  obtain ⟨half, hhalf⟩ := Nat.exists_eq_add_of_lt (Nat.two_pow_pos (format.exponentBits - 1))
  have hexponent : 2 ^ format.exponentBits = 2 * (half + 1) := by
    rw [← Nat.sub_add_cancel hbits, Nat.pow_succ, hhalf]
    omega
  have hword : format.infinityWord =
      2 * half * 2 ^ format.fractionBits + 2 ^ format.fractionBits := by
    show (2 ^ format.exponentBits - 1) * 2 ^ format.fractionBits = _
    rw [hexponent, ← Nat.succ_mul]
    rfl
  have hleast : format.leastExponent = 1 - half - format.fractionBits := by
    show 2 - ((2 ^ (format.exponentBits - 1) : Nat) : Int) - format.fractionBits = _
    rw [hhalf]
    omega
  have hunits : format.units format.infinityWord = 2 ^ (format.fractionBits + 2 * half) := by
    rw [hword, units_compose (by omega) (.inr (le_refl _)), Nat.pow_add]
  rw [hunits, hleast, hhalf, Nat.cast_pow, Nat.cast_two, ← zpow_natCast, ← zpow_natCast,
    ← zpow_add₀ two_ne_zero]
  congr 1
  push_cast
  ring

end Format

namespace Binary

variable {format : Format} {x y : Binary format} {q r : ℚ}

theorem toNat_withSign (negative : Bool) {magnitude : Nat} (h : magnitude < format.signBit) :
    (withSign format negative magnitude).bits.toNat =
      if negative then format.signBit + magnitude else magnitude := by
  rw [withSign, ofWord, BitVec.toNat_ofNat, format.two_pow_width]
  exact Nat.mod_eq_of_lt (by split <;> omega)

theorem magnitude_withSign (negative : Bool) {magnitude : Nat} (h : magnitude < format.signBit) :
    (withSign format negative magnitude).magnitude = magnitude := by
  rw [Binary.magnitude, toNat_withSign negative h]
  split
  · rw [Nat.add_mod_left, Nat.mod_eq_of_lt h]
  · exact Nat.mod_eq_of_lt h

theorem isNegative_withSign (negative : Bool) {magnitude : Nat} (h : magnitude < format.signBit) :
    (withSign format negative magnitude).isNegative = negative := by
  rw [isNegative, toNat_withSign negative h]
  cases negative
  · simpa using h
  · simp

/-- The number that a word stands for. Infinity stands for the number that would follow the largest
one, so that what is rounded to it is nearest to it; not a number stands for none, and zero is taken
for it. -/
def value (x : Binary format) : ℚ :=
  match x.decode with
  | .nan => 0
  | .infinite negative => signedRatio negative (2 ^ 2 ^ (format.exponentBits - 1))
  | .finite negative mantissa exponent => signedRatio negative (mantissa * 2 ^ exponent)

/-- The number is not further from any other word, and of two words that are equally near it is the
even one. -/
structure IsNearest (x : Binary format) (q : ℚ) : Prop where
  number : x.isNan = false
  near : ∀ y : Binary format, y.isNan = false → |q - x.value| ≤ |q - y.value|
  even : ∀ y : Binary format, y.isNan = false → |q - x.value| = |q - y.value| →
    y.value = x.value ∨ x.magnitude % 2 = 0

/-- A number is its count of the least place, with its sign. -/
theorem value_eq (hbits : 0 < format.exponentBits) (hx : x.isNan = false) :
    x.value =
      signedRatio x.isNegative (format.units x.magnitude * 2 ^ format.leastExponent) := by
  unfold value decode
  simp only [Nat.pow_eq]
  rw [if_neg (by simp [hx])]
  by_cases hinfinite : x.magnitude = format.infinityWord
  · rw [if_pos hinfinite, hinfinite, Format.units_infinityWord hbits]
  rw [if_neg hinfinite]
  by_cases hfield : x.magnitude / 2 ^ format.fractionBits = 0
  · have hsmall := Nat.mod_eq_of_lt ((Nat.div_eq_zero_iff_lt (Nat.two_pow_pos _)).mp hfield)
    rw [if_pos hfield, Format.units, if_pos hfield, hsmall]
  · obtain ⟨place, hplace⟩ := Nat.exists_eq_succ_of_ne_zero hfield
    rw [if_neg hfield, Format.units, if_neg hfield, hplace, Nat.succ_sub_one]
    have hexponent : format.leastExponent + (((place.succ : Nat) : Int) - 1) =
        place + format.leastExponent := by
      push_cast
      ring
    dsimp only
    rw [hexponent, zpow_add₀ two_ne_zero, zpow_natCast]
    push_cast
    rw [mul_assoc]

theorem magnitude_le_of_isNan (hx : x.isNan = false) : x.magnitude ≤ format.infinityWord := by
  simpa [isNan] using hx

theorem number_withSign (negative : Bool) {word : Nat} (hword : word ≤ format.infinityWord) :
    (withSign format negative word).isNan = false := by
  rw [isNan, magnitude_withSign negative (hword.trans_lt format.infinityWord_lt_signBit)]
  exact decide_eq_false (Nat.not_lt.mpr hword)

theorem value_withSign (hbits : 0 < format.exponentBits) (negative : Bool) {word : Nat}
    (hword : word ≤ format.infinityWord) :
    (withSign format negative word).value =
      signedRatio negative (format.units word * 2 ^ format.leastExponent) := by
  have hlt := hword.trans_lt format.infinityWord_lt_signBit
  rw [value_eq hbits (number_withSign negative hword), magnitude_withSign negative hlt,
    isNegative_withSign negative hlt]

/-- A word that beats all others, with a sign, is nearest to the number with this sign. -/
theorem isNearest_withSign (hbits : 0 < format.exponentBits) (negative : Bool) {word : Nat}
    (hword : word ≤ format.infinityWord) (hq : 0 ≤ q)
    (h : ∀ other ≤ format.infinityWord,
      format.Beats (q / 2 ^ format.leastExponent) word other) :
    IsNearest (withSign format negative word) (signedRatio negative q) := by
  have hlt := hword.trans_lt format.infinityWord_lt_signBit
  have hleast : (0 : ℚ) < 2 ^ format.leastExponent := by positivity
  have hvalue := value_withSign hbits negative hword
  -- Distances without sign are distances of counts of the least place.
  have hscaled : ∀ other : Nat, |q - format.units other * 2 ^ format.leastExponent| =
      |q / 2 ^ format.leastExponent - format.units other| * 2 ^ format.leastExponent := by
    intro other
    rw [← abs_of_pos hleast, ← abs_mul, abs_of_pos hleast, sub_mul, div_mul_cancel₀ _ hleast.ne']
  have hnear : ∀ other ≤ format.infinityWord,
      |q - format.units word * 2 ^ format.leastExponent| ≤
        |q - format.units other * 2 ^ format.leastExponent| := by
    intro other hother
    rw [hscaled, hscaled]
    exact mul_le_mul_of_nonneg_right (h other hother).near hleast.le
  have heven : ∀ other ≤ format.infinityWord,
      |q - format.units word * 2 ^ format.leastExponent| =
        |q - format.units other * 2 ^ format.leastExponent| → other = word ∨ word % 2 = 0 := by
    intro other hother htie
    rw [hscaled, hscaled] at htie
    exact (h other hother).even (mul_right_cancel₀ hleast.ne' htie)
  -- Of the words with the other sign zero is the nearest one.
  have hzero := hnear 0 (Nat.zero_le _)
  have hzeroEven := heven 0 (Nat.zero_le _)
  simp only [Format.units_zero, Nat.cast_zero, zero_mul, sub_zero, abs_of_nonneg hq]
    at hzero hzeroEven
  refine ⟨number_withSign negative hword, fun y hy ↦ ?_, fun y hy ↦ ?_⟩
  all_goals
    have hyle := magnitude_le_of_isNan hy
    have hypos : (0 : ℚ) ≤ format.units y.magnitude * 2 ^ format.leastExponent := by positivity
    rw [hvalue, value_eq hbits hy, abs_signedRatio_sub]
    by_cases hsign : y.isNegative = negative
  · rw [hsign, abs_signedRatio_sub]
    exact hnear y.magnitude hyle
  · rw [Bool.eq_not.mpr hsign, abs_signedRatio_sub_not negative hq hypos]
    exact hzero.trans (by linarith)
  · rw [hsign, abs_signedRatio_sub, magnitude_withSign negative hlt]
    exact fun htie ↦ (heven y.magnitude hyle htie).imp_left fun heq ↦ by rw [heq]
  · rw [Bool.eq_not.mpr hsign, abs_signedRatio_sub_not negative hq hypos,
      magnitude_withSign negative hlt]
    intro htie
    have hynone : format.units y.magnitude * 2 ^ format.leastExponent = (0 : ℚ) :=
      le_antisymm (by linarith) hypos
    refine (hzeroEven (by linarith)).imp_left fun heq ↦ ?_
    rw [hynone, ← heq]
    cases negative <;> simp [signedRatio]

/-- A quotient is rounded to the nearest number. -/
theorem isNearest_ofRatio (hfraction : 0 < format.fractionBits) (hbits : 0 < format.exponentBits)
    (negative : Bool) (num : Nat) {den : Nat} (hden : 0 < den) :
    IsNearest (ofRatio format negative num den) (signedRatio negative (num / den)) := by
  refine isNearest_withSign hbits negative ?_ (by positivity) fun other hother ↦
    Format.beats_roundRatio hfraction num hden hother
  unfold Format.roundRatio
  split
  · exact Nat.zero_le _
  · exact Nat.min_le_right _ _

/-! ### Decimals -/

/-- How many digits a number has tells its size. -/
theorem pow_length_toDigits {digits : Nat} (hdigits : 0 < digits) :
    10 ^ ((Nat.toDigits 10 digits).length - 1) ≤ digits ∧
      digits < 10 ^ (Nat.toDigits 10 digits).length := by
  have hpos : 0 < (Nat.toDigits 10 digits).length := Nat.length_toDigits_pos
  refine ⟨?_, (Nat.length_toDigits_le_iff (by decide) hpos).mp (le_refl _)⟩
  rcases Nat.eq_or_lt_of_le hpos with hone | hmore
  · rw [← hone]
    exact hdigits
  · by_contra hlt
    have hle := (Nat.length_toDigits_le_iff (by decide) (by omega)).mpr (Nat.not_le.mp hlt)
    omega

/-- The size of a decimal, by the place of its first digit. -/
theorem decimal_bounds {digits : Nat} (hdigits : 0 < digits) (power : Int) :
    (10 ^ (power + (Nat.toDigits 10 digits).length - 1) : ℚ) ≤ digits * 10 ^ power ∧
      (digits * 10 ^ power : ℚ) < 10 ^ (power + (Nat.toDigits 10 digits).length) := by
  obtain ⟨hlower, hupper⟩ := pow_length_toDigits hdigits
  have hpos : 0 < (Nat.toDigits 10 digits).length := Nat.length_toDigits_pos
  generalize (Nat.toDigits 10 digits).length = length at *
  constructor
  · calc (10 ^ (power + length - 1) : ℚ) = (10 ^ (length - 1) : Nat) * 10 ^ power := by
          push_cast
          rw [← zpow_natCast, ← zpow_add₀ (by norm_num)]
          congr 1
          omega
      _ ≤ digits * 10 ^ power := by gcongr
  · calc (digits * 10 ^ power : ℚ) < (10 ^ length : Nat) * 10 ^ power := by gcongr
      _ = 10 ^ (power + length) := by
          push_cast
          rw [← zpow_natCast, ← zpow_add₀ (by norm_num), add_comm]

/-- A quotient of powers of ten is a power of ten. -/
theorem div_pow_ten (digits : Nat) (power : Int) :
    ((digits * Nat.pow 10 power.toNat : Nat) / (Nat.pow 10 (-power).toNat : Nat) : ℚ) =
      digits * 10 ^ power := by
  rcases Int.le_total 0 power with h | h
  · obtain ⟨n, rfl⟩ := Int.eq_ofNat_of_zero_le h
    simp
  · obtain ⟨n, hn⟩ := Int.eq_ofNat_of_zero_le (neg_nonneg.mpr h)
    obtain rfl : power = -n := by omega
    simp [div_eq_mul_inv]

/-- A power of ten is greater than that of two with three times the exponent. -/
theorem two_pow_le_ten_pow {m n : Nat} (h : m ≤ 3 * n) : (2 ^ m : ℚ) ≤ 10 ^ n :=
  calc (2 ^ m : ℚ) ≤ 2 ^ (3 * n) := pow_le_pow_right₀ (by norm_num) h
    _ = (2 ^ 3) ^ n := pow_mul 2 3 n
    _ ≤ 10 ^ n := pow_le_pow_left₀ (by norm_num) (by norm_num) n

theorem ten_zpow_le {m n : Nat} (h : m + 1 ≤ 3 * n) :
    (10 ^ (-n : Int) : ℚ) ≤ 1 / 2 * 2 ^ (-m : Int) := by
  have hhalf : (1 / 2 * 2 ^ (-m : Int) : ℚ) = (2 ^ (m + 1))⁻¹ := by
    rw [zpow_neg, zpow_natCast, pow_succ, mul_inv]
    ring
  rw [hhalf, zpow_neg, zpow_natCast]
  exact inv_anti₀ (by positivity) (two_pow_le_ten_pow h)

/-- A decimal of any length is rounded to the nearest double-precision number. -/
theorem isNearest_ofDecimal (negative : Bool) (digits : Nat) (power : Int) :
    IsNearest (ofDecimal .double negative digits power)
      (signedRatio negative (digits * 10 ^ power)) := by
  have hsize : (0 : ℚ) ≤ digits * 10 ^ power := by positivity
  have hleast : Format.double.leastExponent = -1074 := by decide
  unfold ofDecimal
  dsimp only
  split
  · -- The decimal is zero or so small that zero is nearest to it.
    rename_i hsmall
    refine isNearest_withSign (by decide) negative (Nat.zero_le _) hsize fun other _ ↦
      Format.beats_zero (by positivity) ?_ other
    rcases Nat.eq_zero_or_pos digits with rfl | hdigits
    · simp
    · have hplace := hsmall.resolve_left hdigits.ne'
      rw [hleast, div_le_iff₀ (by positivity)]
      calc (digits * 10 ^ power : ℚ)
          ≤ 10 ^ (power + (Nat.toDigits 10 digits).length) := (decimal_bounds hdigits power).2.le
        _ ≤ 10 ^ (-401 : Int) := zpow_le_zpow_right₀ (by norm_num) (by omega)
        _ ≤ 1 / 2 * 2 ^ (-1074 : Int) := ten_zpow_le (m := 1074) (n := 401) (by decide)
  · rename_i hnot
    obtain ⟨hdigits, -⟩ := not_or.mp hnot
    split
    · rename_i hlarge
      refine isNearest_withSign (by decide) negative (le_refl _) hsize fun other hother ↦
        Format.beats_last ?_ hother
      rw [le_div_iff₀ (by positivity), Format.units_infinityWord (by decide)]
      calc (2 ^ 2 ^ (Format.double.exponentBits - 1) : ℚ)
          ≤ 10 ^ (400 : Nat) := two_pow_le_ten_pow (by decide)
        _ = 10 ^ (400 : Int) := (zpow_natCast _ _).symm
        _ ≤ 10 ^ (power + (Nat.toDigits 10 digits).length - 1) :=
          zpow_le_zpow_right₀ (by norm_num) (by omega)
        _ ≤ digits * 10 ^ power := (decimal_bounds (Nat.pos_of_ne_zero hdigits) power).1
    · rw [← div_pow_ten]
      exact isNearest_ofRatio (by decide) (by decide) negative _ (Nat.pos_of_ne_zero (by simp))

/-! ### What rounding keeps of the order -/

/-- What is as near to the greater one of two numbers as to the smaller one is in the upper half. -/
theorem add_le_two_mul_of_nearer {s t u : ℚ} (hlt : t < s) (hnear : |u - s| ≤ |u - t|) :
    s + t ≤ 2 * u := by
  rcases abs_cases (u - s) with ⟨hs, hs'⟩ | ⟨hs, hs'⟩ <;>
    rcases abs_cases (u - t) with ⟨ht, ht'⟩ | ⟨ht, ht'⟩ <;> rw [hs, ht] at hnear <;> linarith

/-- What is as near to the smaller one of two numbers as to the greater one is in the lower half. -/
theorem two_mul_le_add_of_nearer {s t u : ℚ} (hlt : t < s) (hnear : |u - t| ≤ |u - s|) :
    2 * u ≤ s + t := by
  rcases abs_cases (u - s) with ⟨hs, hs'⟩ | ⟨hs, hs'⟩ <;>
    rcases abs_cases (u - t) with ⟨ht, ht'⟩ | ⟨ht, ht'⟩ <;> rw [hs, ht] at hnear <;> linarith

/-- If sizes grow with their places, then between two sizes with signs, both at even places, there
is the one of another place. -/
theorem exists_signedRatio_between {size : Nat → ℚ} (hsize : StrictMono size) (hzero : size 0 = 0)
    {last m n : Nat} {negative negative' : Bool} (hm : m ≤ last) (hn : n ≤ last)
    (hmeven : m % 2 = 0) (hneven : n % 2 = 0)
    (hlt : signedRatio negative (size m) < signedRatio negative' (size n)) :
    ∃ sign place, place ≤ last ∧ signedRatio negative (size m) < signedRatio sign (size place) ∧
      signedRatio sign (size place) < signedRatio negative' (size n) := by
  have hnonneg : ∀ place, 0 ≤ size place := fun place ↦
    hzero ▸ hsize.monotone (Nat.zero_le place)
  have hone : 0 < size 1 := hzero ▸ hsize Nat.zero_lt_one
  cases negative <;> cases negative' <;> simp only [signedRatio_false, signedRatio_true] at hlt ⊢
  · have hmn := hsize.lt_iff_lt.mp hlt
    exact ⟨false, m + 1, by omega, hsize (by omega), hsize (by omega)⟩
  · linarith [hnonneg m, hnonneg n]
  · -- The number next to zero on the side that is not zero.
    rcases Nat.eq_zero_or_pos n with rfl | hpos
    · have hmpos : 0 < m := hsize.lt_iff_lt.mp (by linarith)
      have hmore : size 1 < size m := hsize (by omega)
      refine ⟨true, 1, by omega, ?_, ?_⟩ <;> simp only [signedRatio_true] <;> linarith
    · have hmore : size 1 < size n := hsize (by omega)
      refine ⟨false, 1, by omega, ?_, hmore⟩
      simp only [signedRatio_false]
      linarith [hnonneg m]
  · have hmn := hsize.lt_iff_lt.mp (neg_lt_neg_iff.mp hlt)
    exact ⟨true, n + 1, by omega, neg_lt_neg (hsize (by omega)), neg_lt_neg (hsize (by omega))⟩

/-- If sizes grow with their places, sizes with signs are in the order of the places with signs. -/
theorem signedRatio_lt_iff {size : Nat → ℚ} (hsize : StrictMono size) (hzero : size 0 = 0)
    {m n : Nat} {negative negative' : Bool} :
    signedRatio negative (size m) < signedRatio negative' (size n) ↔
      Text.signed negative m < Text.signed negative' n := by
  have hnonneg : ∀ place, 0 ≤ size place := fun place ↦
    hzero ▸ hsize.monotone (Nat.zero_le place)
  have hpositive : ∀ place, 0 < size place ↔ 0 < place := fun place ↦ by
    rw [← hsize.lt_iff_lt, hzero]
  cases negative <;> cases negative' <;> simp only [signedRatio_false, signedRatio_true,
    Text.signed, Bool.false_eq_true, if_false, if_true]
  · rw [hsize.lt_iff_lt]
    omega
  · exact iff_of_false (by linarith [hnonneg m, hnonneg n]) (by omega)
  · rcases Nat.eq_zero_or_pos m with rfl | hm
    · rw [hzero, neg_zero, hpositive]
      omega
    · have := (hpositive m).mpr hm
      exact iff_of_true (by linarith [hnonneg n]) (by omega)
  · rw [neg_lt_neg_iff, hsize.lt_iff_lt]
    omega

theorem strictMono_size (format : Format) :
    StrictMono fun word ↦ (format.units word * 2 ^ format.leastExponent : ℚ) := by
  intro m n hlt
  have hunits : (format.units m : ℚ) < format.units n := by
    exact_mod_cast format.strictMono_units hlt
  dsimp only
  gcongr

/-- Numbers are in the order of their places. -/
theorem value_lt_iff (hbits : 0 < format.exponentBits) (hx : x.isNan = false)
    (hy : y.isNan = false) : x.value < y.value ↔ x.key < y.key := by
  rw [value_eq hbits hx, value_eq hbits hy]
  exact signedRatio_lt_iff (strictMono_size format) (by simp)

theorem value_inj (hbits : 0 < format.exponentBits) (hx : x.isNan = false)
    (hy : y.isNan = false) : x.value = y.value ↔ x.key = y.key := by
  have hxy := value_lt_iff hbits hx hy
  have hyx := value_lt_iff hbits hy hx
  constructor <;> intro heq
  · rw [heq] at hxy hyx
    exact le_antisymm (not_lt.mp (mt hyx.mpr (lt_irrefl _))) (not_lt.mp (mt hxy.mpr (lt_irrefl _)))
  · rw [heq] at hxy hyx
    exact le_antisymm (not_lt.mp (mt hyx.mp (lt_irrefl _))) (not_lt.mp (mt hxy.mp (lt_irrefl _)))

/-- Between two words that are even and stand for different numbers there is another one. -/
theorem exists_between (hbits : 0 < format.exponentBits) (hx : x.isNan = false)
    (hy : y.isNan = false) (hxeven : x.magnitude % 2 = 0) (hyeven : y.magnitude % 2 = 0)
    (hlt : x.value < y.value) :
    ∃ z : Binary format, z.isNan = false ∧ x.value < z.value ∧ z.value < y.value := by
  rw [value_eq hbits hx, value_eq hbits hy] at hlt ⊢
  obtain ⟨sign, word, hword, hbelow, habove⟩ := exists_signedRatio_between
    (strictMono_size format) (by simp) (magnitude_le_of_isNan hx) (magnitude_le_of_isNan hy)
    hxeven hyeven hlt
  refine ⟨withSign format sign word, number_withSign sign hword, ?_⟩
  rw [value_withSign hbits sign hword]
  exact ⟨hbelow, habove⟩

/-- Rounding to the nearest number keeps the order. -/
theorem IsNearest.value_le (hbits : 0 < format.exponentBits) (hx : IsNearest x q)
    (hy : IsNearest y r) (hle : q ≤ r) : x.value ≤ y.value := by
  by_contra hgreater
  rw [not_le] at hgreater
  have hupper := add_le_two_mul_of_nearer hgreater (hx.near y hy.number)
  have hlower := two_mul_le_add_of_nearer hgreater (hy.near x hx.number)
  -- The two words are equally near to the number in their middle, so both of them are even.
  obtain rfl : q = r := by linarith
  have htie : |q - x.value| = |q - y.value| :=
    le_antisymm (hx.near y hy.number) (hy.near x hx.number)
  have hxeven := (hx.even y hy.number htie).resolve_left hgreater.ne
  have hyeven := (hy.even x hx.number htie.symm).resolve_left hgreater.ne'
  obtain ⟨z, hz, hyz, hzx⟩ := exists_between hbits hy.number hx.number hyeven hxeven hgreater
  have hnear := hx.near z hz
  have := add_le_two_mul_of_nearer hzx hnear
  linarith

/-- Two words that are nearest to one number stand for one number. -/
theorem IsNearest.value_unique (hbits : 0 < format.exponentBits) (hx : IsNearest x q)
    (hy : IsNearest y q) : x.value = y.value :=
  le_antisymm (hx.value_le hbits hy le_rfl) (hy.value_le hbits hx le_rfl)

/-- What is nearest to a number is a matter of what a word stands for. -/
theorem IsNearest.of_value_eq (hbits : 0 < format.exponentBits) (hy : IsNearest y q)
    (hx : x.isNan = false) (hvalue : x.value = y.value) : IsNearest x q := by
  have hkey := (value_inj hbits hx hy.number).mp hvalue
  have hmagnitude : x.magnitude = y.magnitude := by
    unfold key Text.signed at hkey
    split at hkey <;> split at hkey <;> omega
  refine ⟨hx, ?_, ?_⟩
  · rw [hvalue]
    exact hy.near
  · rw [hvalue, hmagnitude]
    exact hy.even

end Binary

/-- Two numbers are rounded to the same double-precision number. -/
def ShareNearest (q r : ℚ) : Prop :=
  ∃ x : Binary64, x.IsNearest q ∧ x.IsNearest r

namespace Binary

variable {x y : Binary64} {q r : ℚ}

/-- The nearest numbers are the same exactly if one word is nearest to both. -/
theorem shareNearest_iff (hx : x.IsNearest q) (hy : y.IsNearest r) :
    ShareNearest q r ↔ x.key = y.key := by
  rw [← value_inj (by decide) hx.number hy.number]
  constructor
  · rintro ⟨z, hzq, hzr⟩
    exact (hx.value_unique (by decide) hzq).trans (hzr.value_unique (by decide) hy)
  · intro hvalue
    exact ⟨x, hx, hy.of_value_eq (by decide) hx.number hvalue⟩

/-- Nearest numbers that differ are in the order of the numbers themselves. -/
theorem IsNearest.lt_of_key_lt (hx : x.IsNearest q) (hy : y.IsNearest r) (hlt : x.key < y.key) :
    q < r := by
  by_contra hle
  have hvalue := hy.value_le (by decide) hx (not_lt.mp hle)
  exact absurd ((value_lt_iff (by decide) hx.number hy.number).mpr hlt) (not_lt.mpr hvalue)

end Binary

end ColumnStore
