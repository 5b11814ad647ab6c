import ColumnStore.Binary.Literal
import Mathlib.Algebra.Order.Field.Power
import Mathlib.Algebra.Order.Ring.Rat
import Mathlib.Data.Nat.Log
import Mathlib.Tactic.FieldSimp
import Mathlib.Tactic.Linarith
import Mathlib.Tactic.Positivity
import Mathlib.Tactic.Ring

/-!
# The nearest floating-point number

The words of a format without sign stand for a strictly increasing sequence of numbers. Counted in
the least place of the format they are the natural numbers `Format.units`: every word up to twice
the first one with a leading bit is its own count, and from there on the counts double from one
exponent to the next. `Format.roundRatio` finds the word whose number is nearest to a quotient, and
the even one of two that are equally near.
-/

set_option autoImplicit false

namespace ColumnStore

namespace Format

variable {format : Format} {word other place count : Nat} {q : ℚ}

/-- The number that a word without sign stands for, counted in the least place of the format. The
word of infinity stands for the number that would follow the largest one. -/
def units (format : Format) (word : Nat) : Nat :=
  if word / 2 ^ format.fractionBits = 0 then word
  else
    (2 ^ format.fractionBits + word % 2 ^ format.fractionBits) *
      2 ^ (word / 2 ^ format.fractionBits - 1)

/-- A count of some place, by which the word is composed, up to one too many for the place. -/
theorem units_compose (hcount : count ≤ 2 * 2 ^ format.fractionBits)
    (hplace : place = 0 ∨ 2 ^ format.fractionBits ≤ count) :
    format.units (place * 2 ^ format.fractionBits + count) = count * 2 ^ place := by
  have hpos : 0 < 2 ^ format.fractionBits := Nat.two_pow_pos _
  unfold units
  generalize 2 ^ format.fractionBits = unit at *
  rcases Nat.lt_or_ge count unit with hsmall | hlarge
  · -- Below the leading bit there is only the least place.
    obtain rfl : place = 0 := hplace.resolve_right (by omega)
    simp [Nat.div_eq_of_lt hsmall]
  · obtain ⟨rest, rfl⟩ := Nat.exists_eq_add_of_le hlarge
    rcases Nat.lt_or_ge rest unit with hrest | hrest
    · have hword : place * unit + (unit + rest) = rest + unit * (place + 1) := by ring
      rw [hword, Nat.add_mul_div_left _ _ hpos, Nat.add_mul_mod_self_left,
        Nat.div_eq_of_lt hrest, Nat.mod_eq_of_lt hrest]
      simp
    · obtain rfl : rest = unit := by omega
      have hword : place * rest + (rest + rest) = rest * (place + 2) := by ring
      rw [hword, Nat.mul_div_cancel_left _ hpos, Nat.mul_mod_right, if_neg (by omega),
        show place + 2 - 1 = place + 1 by omega, Nat.pow_succ]
      ring

/-- Every word is composed of a place and a count of this place. -/
theorem exists_compose (format : Format) (word : Nat) :
    ∃ place count, word = place * 2 ^ format.fractionBits + count ∧
      count < 2 * 2 ^ format.fractionBits ∧ (place = 0 ∨ 2 ^ format.fractionBits ≤ count) := by
  have hpos : 0 < 2 ^ format.fractionBits := Nat.two_pow_pos _
  generalize 2 ^ format.fractionBits = unit at *
  have hdivision := Nat.div_add_mod word unit
  have hmod := Nat.mod_lt word hpos
  cases hfield : word / unit with
  | zero =>
    rw [hfield] at hdivision
    exact ⟨0, word, by omega, by omega, .inl rfl⟩
  | succ place =>
    rw [hfield] at hdivision
    refine ⟨place, unit + word % unit, ?_, by omega, .inr (by omega)⟩
    rw [← hdivision, Nat.mul_add_mod_self_left, Nat.mod_mod]
    ring

theorem strictMono_units (format : Format) : StrictMono format.units := by
  refine strictMono_nat_of_lt_succ fun word ↦ ?_
  obtain ⟨place, count, rfl, hcount, hplace⟩ := format.exists_compose word
  rw [Nat.add_assoc, units_compose (by omega) hplace, units_compose (by omega) (by omega)]
  exact Nat.mul_lt_mul_of_pos_right (Nat.lt_succ_self count) (Nat.two_pow_pos place)

@[simp] theorem units_zero (format : Format) : format.units 0 = 0 := by
  simp [units]

/-- The next word stands for at least one more of the place. -/
theorem le_units_succ (hcount : count ≤ 2 * 2 ^ format.fractionBits)
    (hplace : place = 0 ∨ 2 ^ format.fractionBits ≤ count) :
    (count + 1) * 2 ^ place ≤ format.units (place * 2 ^ format.fractionBits + count + 1) := by
  have hpos : 0 < 2 ^ format.fractionBits := Nat.two_pow_pos _
  rcases Nat.lt_or_ge count (2 * 2 ^ format.fractionBits) with hlt | hge
  · rw [Nat.add_assoc, units_compose (by omega) (by omega)]
  · obtain rfl : count = 2 * 2 ^ format.fractionBits := by omega
    have hword : place * 2 ^ format.fractionBits + 2 * 2 ^ format.fractionBits + 1 =
        (place + 1) * 2 ^ format.fractionBits + (2 ^ format.fractionBits + 1) := by ring
    rw [hword, units_compose (by omega) (by omega), Nat.pow_succ, ← Nat.mul_assoc,
      Nat.mul_right_comm]
    exact Nat.mul_le_mul_right _ (by omega)

/-- The word before stands for at most one less of the place, unless a place begins there. -/
theorem units_le_of_lt (hcount : count ≤ 2 * 2 ^ format.fractionBits)
    (hplace : place = 0 ∨ 2 ^ format.fractionBits < count)
    (hlt : other < place * 2 ^ format.fractionBits + count) :
    format.units other + 2 ^ place ≤ count * 2 ^ place := by
  have hpositive : 0 < count := by
    rcases hplace with rfl | hplace <;> omega
  obtain ⟨less, rfl⟩ := Nat.exists_eq_add_of_le' hpositive
  have hbefore : format.units (place * 2 ^ format.fractionBits + less) = less * 2 ^ place :=
    units_compose (by omega) (by omega)
  have hle : other ≤ place * 2 ^ format.fractionBits + less := by omega
  have hmono := (strictMono_units format).monotone hle
  rw [hbefore] at hmono
  rw [Nat.add_mul, Nat.one_mul]
  exact Nat.add_le_add_right hmono _

/-! ### Rounding a word -/

/-- Of two words the first one is at least as near to the number, and it is even if it is another
word that is equally near. -/
structure Beats (format : Format) (q : ℚ) (word other : Nat) : Prop where
  near : |q - format.units word| ≤ |q - format.units other|
  even : |q - format.units word| = |q - format.units other| → other = word ∨ word % 2 = 0

/-- A count that is rounded to the nearest one, in a place that the number reaches, gives the word
nearest to the number. -/
theorem beats_compose (hbits : 0 < format.fractionBits)
    (hcount : count ≤ 2 * 2 ^ format.fractionBits)
    (hplace : place = 0 ∨ 2 ^ format.fractionBits ≤ count ∧
      (2 ^ format.fractionBits * 2 ^ place : ℚ) ≤ q)
    (hnear : |q - count * 2 ^ place| ≤ 2 ^ place / 2)
    (heven : |q - count * 2 ^ place| = 2 ^ place / 2 → count % 2 = 0) (other : Nat) :
    format.Beats q (place * 2 ^ format.fractionBits + count) other := by
  have hword : (format.units (place * 2 ^ format.fractionBits + count) : ℚ) =
      count * 2 ^ place := by
    rw [units_compose hcount (hplace.imp_right And.left)]
    push_cast
    rfl
  obtain ⟨hbelow, habove⟩ := abs_le.mp hnear
  have hparity : (place * 2 ^ format.fractionBits + count) % 2 = count % 2 := by
    obtain ⟨bits, hbits⟩ := Nat.exists_eq_add_of_lt hbits
    rw [hbits, Nat.pow_succ, ← Nat.mul_assoc, Nat.add_comm, Nat.add_mul_mod_self_right]
  -- Another word that is at least half a place away is beaten.
  have hfar : (2 ^ place / 2 : ℚ) ≤ |q - format.units other| →
      format.Beats q (place * 2 ^ format.fractionBits + count) other := by
    intro hhalf
    refine ⟨hword ▸ hnear.trans hhalf, fun htie ↦ .inr ?_⟩
    rw [hword] at htie
    exact hparity ▸ heven (le_antisymm hnear (htie ▸ hhalf))
  rcases Nat.lt_trichotomy other (place * 2 ^ format.fractionBits + count) with hlt | heq | hgt
  · by_cases hbegin : place = 0 ∨ 2 ^ format.fractionBits < count
    · have hless : (format.units other : ℚ) + 2 ^ place ≤ count * 2 ^ place := by
        exact_mod_cast units_le_of_lt hcount hbegin hlt
      exact hfar (le_trans (by linarith) (le_abs_self _))
    · -- The place begins at the word, and the number is not before it.
      obtain ⟨hlarge, hreach⟩ := hplace.resolve_left fun h ↦ hbegin (.inl h)
      obtain rfl : count = 2 ^ format.fractionBits := by omega
      have hless : (format.units other : ℚ) < 2 ^ format.fractionBits * 2 ^ place := by
        have hmono := strictMono_units format hlt
        rw [units_compose hcount (.inr hlarge)] at hmono
        exact_mod_cast hmono
      push_cast at hword
      have hnearer : |q - format.units (place * 2 ^ format.fractionBits +
          2 ^ format.fractionBits)| < |q - format.units other| := by
        rw [hword, abs_of_nonneg (by linarith), abs_of_nonneg (by linarith)]
        linarith
      exact ⟨hnearer.le, fun htie ↦ absurd htie hnearer.ne⟩
  · subst heq
    exact ⟨le_refl _, fun _ ↦ .inl rfl⟩
  · have hmore : ((count + 1) * 2 ^ place : ℚ) ≤ format.units other := by
      have hnext := le_units_succ hcount (hplace.imp_right And.left)
      exact_mod_cast hnext.trans ((strictMono_units format).monotone hgt)
    refine hfar (le_trans ?_ (neg_le_abs _))
    linarith

/-- Below half of the least number zero is the nearest one. -/
theorem beats_zero (hq : 0 ≤ q) (hhalf : q ≤ 1 / 2) (other : Nat) : format.Beats q 0 other := by
  refine ⟨?_, fun _ ↦ .inr rfl⟩
  rw [units_zero, Nat.cast_zero, sub_zero, abs_of_nonneg hq]
  rcases Nat.eq_zero_or_pos other with rfl | hother
  · simp [abs_of_nonneg hq]
  · have hone : (1 : ℚ) ≤ format.units other := by
      exact_mod_cast hother.trans_le ((strictMono_units format).le_apply (x := other))
    exact le_trans (by linarith) (neg_le_abs _)

/-- Behind a word that word is the nearest one of all that come before it. -/
theorem beats_last {last : Nat} (hreach : (format.units last : ℚ) ≤ q) (hother : other ≤ last) :
    format.Beats q last other := by
  have hmono : (format.units other : ℚ) ≤ format.units last := by
    exact_mod_cast (strictMono_units format).monotone hother
  refine ⟨?_, fun htie ↦ .inl ?_⟩
  · rw [abs_of_nonneg (by linarith), abs_of_nonneg (by linarith)]
    linarith
  · rw [abs_of_nonneg (by linarith), abs_of_nonneg (by linarith)] at htie
    have hequal : (format.units other : ℚ) = format.units last := by linarith
    exact (strictMono_units format).injective (by exact_mod_cast hequal)

/-- Where the words end at a last one, the last one stands for all that follow. -/
theorem beats_min {last : Nat} (h : ∀ other, format.Beats q word other) (hother : other ≤ last) :
    format.Beats q (min word last) other := by
  rcases Nat.lt_or_ge last word with hlt | hle
  · rw [Nat.min_eq_right hlt.le]
    refine beats_last ?_ hother
    -- Before the last word the number would be nearer to that word than to a later one.
    have hbehind : (format.units last : ℚ) < format.units word := by
      exact_mod_cast strictMono_units format hlt
    by_contra hbefore
    rw [not_le] at hbefore
    have hnear := (h last).near
    rw [abs_of_neg (by linarith), abs_of_neg (by linarith)] at hnear
    linarith
  · rw [Nat.min_eq_left hle]
    exact h other

/-! ### Rounding a quotient -/

/-- A quotient in the middle between two whole numbers is rounded to the even one. -/
theorem even_roundHalfEven (num : Nat) {den : Nat} (hden : 0 < den)
    (htie : 2 * num = (2 * roundHalfEven num den + 1) * den ∨
      2 * num + den = 2 * roundHalfEven num den * den) : roundHalfEven num den % 2 = 0 := by
  have hdivision := Nat.div_add_mod num den
  have hmod := Nat.mod_lt num hden
  simp only [roundHalfEven] at htie ⊢
  generalize num / den = quotient at *
  generalize num % den = rest at *
  subst hdivision
  have hcomm : quotient * den = den * quotient := Nat.mul_comm quotient den
  split <;> rename_i hup
  · rw [if_pos hup] at htie
    simp only [Nat.add_mul, Nat.mul_add, Nat.mul_assoc, hcomm] at htie
    omega
  · rw [if_neg hup] at htie
    simp only [Nat.add_mul, Nat.mul_add, Nat.mul_assoc, hcomm] at htie
    omega

/-- The rounded quotient is at most half a unit away, and it is even if it is half a unit away. -/
theorem abs_sub_roundHalfEven (num : Nat) {den : Nat} (hden : 0 < den) :
    |(num / den : ℚ) - roundHalfEven num den| ≤ 1 / 2 ∧
      (|(num / den : ℚ) - roundHalfEven num den| = 1 / 2 → roundHalfEven num den % 2 = 0) := by
  have hpos : (0 : ℚ) < den := by exact_mod_cast hden
  obtain ⟨habove, hbelow⟩ := @roundHalfEven_near num den hden
  have hquotient : (num : ℚ) = num / den * den := (div_mul_cancel₀ _ hpos.ne').symm
  have hupper : (2 * num : ℚ) ≤ (2 * roundHalfEven num den + 1) * den := by exact_mod_cast habove
  have hlower : (2 * roundHalfEven num den * den : ℚ) ≤ 2 * num + den := by exact_mod_cast hbelow
  have htie := even_roundHalfEven num hden
  generalize roundHalfEven num den = rounded at *
  generalize (num / den : ℚ) = quotient at *
  rw [hquotient] at hupper hlower
  have hle : quotient ≤ rounded + 1 / 2 := by nlinarith
  have hge : rounded - 1 / 2 ≤ quotient := by nlinarith
  refine ⟨abs_le.mpr ⟨by linarith, by linarith⟩, fun hhalf ↦ htie ?_⟩
  rcases (abs_eq (by norm_num : (0 : ℚ) ≤ 1 / 2)).mp hhalf with hmore | hless
  · left
    have : (2 * num : ℚ) = (2 * rounded + 1) * den := by
      rw [hquotient, show quotient = rounded + 1 / 2 by linarith]
      ring
    exact_mod_cast this
  · right
    have : (2 * num + den : ℚ) = 2 * rounded * den := by
      rw [hquotient, show quotient = rounded - 1 / 2 by linarith]
      ring
    exact_mod_cast this

/-- Scaling a quotient down divides it by a power of two. -/
theorem div_scaleDown (num den : Nat) (exponent : Int) :
    ((scaleDown num den exponent).1 / (scaleDown num den exponent).2 : ℚ) =
      num / den / 2 ^ exponent := by
  unfold scaleDown
  rcases Int.le_total 0 exponent with h | h
  · obtain ⟨n, rfl⟩ := Int.eq_ofNat_of_zero_le h
    simp [div_div]
  · obtain ⟨n, hn⟩ := Int.eq_ofNat_of_zero_le (neg_nonneg.mpr h)
    obtain rfl : exponent = -n := by omega
    simp [div_eq_mul_inv, mul_comm, mul_assoc, mul_left_comm]

theorem scaleDown_pos (num : Nat) {den : Nat} (hden : 0 < den) (exponent : Int) :
    0 < (scaleDown num den exponent).2 :=
  Nat.mul_pos hden (Nat.two_pow_pos _)

/-- The bits in front of the point of a quotient, up to one. -/
theorem log2_bounds {num den : Nat} (hnum : 0 < num) (hden : 0 < den) :
    (2 ^ ((num.log2 : Int) - den.log2 - 1) : ℚ) ≤ num / den ∧
      (num / den : ℚ) < 2 ^ ((num.log2 : Int) - den.log2 + 1) := by
  have hpos : (0 : ℚ) < den := by exact_mod_cast hden
  have hnumLower : (2 ^ (num.log2 : Int) : ℚ) ≤ num := by
    exact_mod_cast Nat.log2_self_le hnum.ne'
  have hnumUpper : (num : ℚ) < 2 ^ ((num.log2 : Int) + 1) := by
    exact_mod_cast Nat.lt_log2_self
  have hdenLower : (2 ^ (den.log2 : Int) : ℚ) ≤ den := by
    exact_mod_cast Nat.log2_self_le hden.ne'
  have hdenUpper : (den : ℚ) < 2 ^ ((den.log2 : Int) + 1) := by
    exact_mod_cast Nat.lt_log2_self
  constructor
  · rw [le_div_iff₀ hpos]
    calc (2 ^ ((num.log2 : Int) - den.log2 - 1) * den : ℚ)
        ≤ 2 ^ ((num.log2 : Int) - den.log2 - 1) * 2 ^ ((den.log2 : Int) + 1) := by gcongr
      _ = 2 ^ (num.log2 : Int) := by rw [← zpow_add₀ two_ne_zero]; congr 1; ring
      _ ≤ num := hnumLower
  · rw [div_lt_iff₀ hpos]
    calc (num : ℚ) < 2 ^ ((num.log2 : Int) + 1) := hnumUpper
      _ = 2 ^ ((num.log2 : Int) - den.log2 + 1) * 2 ^ (den.log2 : Int) := by
        rw [← zpow_add₀ two_ne_zero]; congr 1; ring
      _ ≤ 2 ^ ((num.log2 : Int) - den.log2 + 1) * den := by gcongr

/-- The place that is found for a quotient before the least one is taken into account. -/
theorem exists_place_of_quotient (format : Format) {num den : Nat} (hnum : 0 < num)
    (hden : 0 < den) :
    ∃ exponent : Int, format.lastPlace num den = max exponent format.leastExponent ∧
      (2 ^ format.fractionBits * 2 ^ exponent : ℚ) ≤ num / den ∧
      (num / den : ℚ) < 2 * 2 ^ format.fractionBits * 2 ^ exponent := by
  obtain ⟨hlower, hupper⟩ := log2_bounds hnum hden
  set guess : Int := (num.log2 : Int) - den.log2 - format.fractionBits with hguess
  have hscaled := scaleDown_pos num hden guess
  have hbits : ∀ exponent : Int, (2 ^ format.fractionBits * 2 ^ exponent : ℚ) =
      2 ^ (format.fractionBits + exponent : Int) := by
    intro exponent
    rw [zpow_add₀ two_ne_zero, zpow_natCast]
  have hreaches : Nat.pow 2 format.fractionBits ≤
      (scaleDown num den guess).1 / (scaleDown num den guess).2 ↔
        (2 ^ format.fractionBits * 2 ^ guess : ℚ) ≤ num / den := by
    have hpower : (0 : ℚ) < 2 ^ guess := by positivity
    have hpos : (0 : ℚ) < (scaleDown num den guess).2 := by exact_mod_cast hscaled
    rw [Nat.le_div_iff_mul_le hscaled, ← le_div_iff₀ hpower, ← div_scaleDown, le_div_iff₀ hpos]
    exact_mod_cast Iff.rfl
  by_cases hreach : (2 ^ format.fractionBits * 2 ^ guess : ℚ) ≤ num / den
  · refine ⟨guess, ?_, hreach, ?_⟩
    · unfold lastPlace
      rw [← hguess]
      dsimp only
      rw [if_pos (hreaches.mpr hreach)]
    · rw [mul_assoc, hbits, ← zpow_one_add₀ two_ne_zero]
      exact hupper.trans_eq (by congr 1; omega)
  · refine ⟨guess - 1, ?_, ?_, ?_⟩
    · unfold lastPlace
      rw [← hguess]
      dsimp only
      rw [if_neg (mt hreaches.mp hreach)]
    · rw [hbits]
      exact hlower.trans_eq' (by congr 1; omega)
    · rw [mul_assoc, hbits, ← zpow_one_add₀ two_ne_zero]
      rw [not_le, hbits] at hreach
      exact hreach.trans_eq (by congr 1; omega)

/-- The last place of a quotient: the quotient has at most as many bits in front of it as a format
has, and exactly as many unless the place is the least one. -/
theorem lastPlace_spec (format : Format) {num den : Nat} (hnum : 0 < num) (hden : 0 < den) :
    format.leastExponent ≤ format.lastPlace num den ∧
      (num / den : ℚ) < 2 * 2 ^ format.fractionBits * 2 ^ format.lastPlace num den ∧
      (format.lastPlace num den = format.leastExponent ∨
        (2 ^ format.fractionBits * 2 ^ format.lastPlace num den : ℚ) ≤ num / den) := by
  obtain ⟨exponent, hplace, hlower, hupper⟩ := exists_place_of_quotient format hnum hden
  rw [hplace]
  refine ⟨le_max_right _ _, hupper.trans_le ?_, ?_⟩
  · gcongr
    · norm_num
    · exact le_max_left _ _
  · rcases le_total exponent format.leastExponent with hle | hle
    · exact .inl (max_eq_right hle)
    · rw [max_eq_left hle]
      exact .inr hlower

/-- The word of a quotient is the nearest one of all words up to infinity. -/
theorem beats_roundRatio (hbits : 0 < format.fractionBits) (num : Nat) {den : Nat} (hden : 0 < den)
    (hother : other ≤ format.infinityWord) :
    format.Beats (num / den / 2 ^ format.leastExponent) (format.roundRatio num den) other := by
  unfold roundRatio
  rcases Nat.eq_zero_or_pos num with rfl | hnum
  · rw [if_pos rfl]
    exact ⟨by simp, fun _ ↦ .inr rfl⟩
  rw [if_neg hnum.ne']
  dsimp only
  obtain ⟨hleast, hupper, hlower⟩ := lastPlace_spec format hnum hden
  generalize hexponent : format.lastPlace num den = exponent at *
  obtain ⟨place, hplace⟩ := Int.eq_ofNat_of_zero_le (sub_nonneg.mpr hleast)
  have hpower : (2 ^ exponent : ℚ) = 2 ^ place * 2 ^ format.leastExponent := by
    rw [← zpow_natCast, ← zpow_add₀ two_ne_zero]
    congr 1
    omega
  have hleastPos : (0 : ℚ) < 2 ^ format.leastExponent := by positivity
  have hplacePos : (0 : ℚ) < 2 ^ place := by positivity
  have hscaled := scaleDown_pos num hden exponent
  obtain ⟨hnear, heven⟩ :=
    abs_sub_roundHalfEven (scaleDown num den exponent).1 hscaled
  rw [div_scaleDown] at hnear heven
  generalize roundHalfEven (scaleDown num den exponent).1 (scaleDown num den exponent).2 =
    rounded at *
  -- The quotient counted in its last place.
  have hcounted : (num / den / 2 ^ format.leastExponent : ℚ) =
      num / den / 2 ^ exponent * 2 ^ place := by
    rw [hpower]
    field_simp
  rw [← div_lt_iff₀ (by positivity)] at hupper
  rw [← le_div_iff₀ (by positivity)] at hlower
  generalize (num / den / 2 ^ exponent : ℚ) = quotient at *
  obtain ⟨hbelow, habove⟩ := abs_le.mp hnear
  have hdistance : |quotient * 2 ^ place - rounded * 2 ^ place| =
      |quotient - rounded| * 2 ^ place := by
    rw [← sub_mul, abs_mul, abs_of_pos hplacePos]
  rw [hplace, Int.toNat_natCast, hcounted]
  refine beats_min (fun other ↦ beats_compose hbits ?_ ?_ ?_ ?_ other) hother
  · have hlt : (rounded : ℚ) < (2 * 2 ^ format.fractionBits : Nat) + 1 := by
      push_cast
      linarith
    have : rounded < 2 * 2 ^ format.fractionBits + 1 := by exact_mod_cast hlt
    omega
  · rcases hlower with hleastPlace | hreach
    · left
      omega
    · right
      have hlt : ((2 ^ format.fractionBits : Nat) : ℚ) < rounded + 1 := by
        push_cast
        linarith
      have : 2 ^ format.fractionBits < rounded + 1 := by exact_mod_cast hlt
      exact ⟨by omega, by gcongr⟩
  · rw [hdistance]
    calc |quotient - rounded| * 2 ^ place ≤ 1 / 2 * 2 ^ place := by gcongr
      _ = 2 ^ place / 2 := by ring
  · rw [hdistance]
    intro htie
    refine heven (mul_right_cancel₀ hplacePos.ne' (htie.trans ?_))
    ring

end Format

end ColumnStore
