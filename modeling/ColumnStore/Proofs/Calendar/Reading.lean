import ColumnStore.Calendar.Timestamp
import ColumnStore.Proofs.Calendar.Counting
import ColumnStore.Proofs.Text.Digits

/-!
# Reading dates and timestamps

A date that is written with four digits for the year and two each for the month and the day is read
as the number of its day, if the calendar has that day, and refused otherwise. A timestamp with such
a date adds the milliseconds since midnight to those up to the start of its day, whether these are
counted forwards or backwards, and a fraction of any length loses what is less than a
millisecond.
-/

set_option autoImplicit false

namespace ColumnStore

open Text (AreBlank AreDigits IsNumeral)

namespace Calendar

variable {width n : Nat} {digits rest cs : List Char}

/-! ### Numbers -/

theorem expect_cons (c : Char) (rest : List Char) : expect c (c :: rest) = some rest := if_pos rfl

theorem readDigits_of_take (hne : cs.take width ≠ []) (hdigits : AreDigits (cs.take width)) :
    readDigits width cs = some (cs.take width, cs.drop width) := by
  have hall : (cs.take width).takeWhile Char.isDigit = cs.take width :=
    List.takeWhile_eq_self_iff.mpr hdigits
  have hrest : cs.drop (cs.take width).length = cs.drop width := by
    rw [List.drop_eq_drop_iff, List.length_take, Nat.min_assoc, Nat.min_self]
  rw [readDigits, hall, if_neg (by simpa using hne), hrest]

theorem readDigits_append (h : IsNumeral width n digits) (hwidth : 0 < width) :
    readDigits width (digits ++ rest) = some (digits, rest) := by
  have htake : (digits ++ rest).take width = digits := List.take_left' h.length
  have hread := readDigits_of_take (htake.symm ▸ h.ne_nil hwidth) (htake.symm ▸ h.areDigits)
  rwa [htake, List.drop_left' h.length] at hread

theorem readShort_append (h : IsNumeral 2 n digits) :
    readShort (digits ++ rest) = some (n, rest) := by
  rw [readShort, h.dropBlanks_append (by decide), readDigits_append h (by decide), Option.map_some,
    h.value]

theorem readYear_append (h : IsNumeral 4 n digits) :
    readYear (digits ++ rest) = some ((n : Int), rest) := by
  have hread := @readDigits_append 4 n digits rest h (by decide)
  have hhead := @Text.IsNumeral.head digits rest n 4 h (by decide)
  unfold readYear
  rw [h.dropBlanks_append (by decide)]
  dsimp only
  split
  · rename_i heq
    rw [heq] at hhead
    exact absurd (hhead '-' rfl) (by decide)
  · rename_i heq
    rw [heq] at hhead
    exact absurd (hhead '+' rfl) (by decide)
  · rw [hread, Option.map_some, h.value]
    rfl

end Calendar

/-! ### Dates -/

namespace Date

open Calendar

variable {year month day : Nat} {n : Int}

/-- A date as it is written, with four digits for the year and two each for the month and the
day. -/
def written (year month day : Nat) : List Char :=
  (Text.decimalDigits 4 year).toList ++ '-' :: ((Text.decimalDigits 2 month).toList ++
    '-' :: (Text.decimalDigits 2 day).toList)

theorem readFront_written (hyear : year < 10000) (hmonth : month < 100) (hday : day < 100)
    (rest : List Char) : readFront (written year month day ++ rest) =
      if IsValid ⟨year, month, day⟩ then some (⟨year, month, day⟩, rest) else none := by
  have hy : IsNumeral 4 year _ := Text.isNumeral_decimalDigits (by decide) hyear
  have hm : IsNumeral 2 month _ := Text.isNumeral_decimalDigits (by decide) hmonth
  have hd : IsNumeral 2 day _ := Text.isNumeral_decimalDigits (by decide) hday
  simp only [readFront, written, List.append_assoc, List.cons_append, readYear_append hy,
    readShort_append hm, readShort_append hd, expect_cons, Option.bind_eq_bind, Option.bind_some]

/-- The years of four digits have dates. -/
theorem isValid_iff_inCalendar (hyear : year < 10000) :
    IsValid ⟨year, month, day⟩ ↔ InCalendar ⟨year, month, day⟩ := by
  rw [inCalendar_iff, IsValid, firstYear, lastYear]
  dsimp only
  omega

/-- A date that is written is read as the number that is counted for it. -/
theorem read_written_eq_some_iff (hyear : year < 10000) (hmonth : month < 100) (hday : day < 100) :
    read (written year month day) = some n ↔ IsDayNumber ⟨year, month, day⟩ n := by
  have hfront := readFront_written hyear hmonth hday []
  rw [List.append_nil] at hfront
  rw [read, hfront, isDayNumber_iff, ← isValid_iff_inCalendar hyear]
  by_cases hvalid : IsValid ⟨year, month, day⟩
  · simp [hvalid, eq_comm]
  · simp [hvalid]

end Date

/-! ### Times of day -/

namespace TimeOfDay

open Calendar

variable {hour minute second millisecond : Nat} {digits fraction : List Char}

/-- A time of day as it is written, with two digits each for the hour, the minute and the second. -/
def written (hour minute second : Nat) : List Char :=
  (Text.decimalDigits 2 hour).toList ++ ':' :: ((Text.decimalDigits 2 minute).toList ++
    ':' :: (Text.decimalDigits 2 second).toList)

/-- A fraction of a second as it is written, or none, and the whole milliseconds in it. -/
inductive IsFraction : List Char → Nat → Prop
  | none : IsFraction [] 0
  | digits {digits : List Char} (hne : digits ≠ []) (hdigits : AreDigits digits) :
      IsFraction ('.' :: digits) (Nat.ofDigitChars 10 digits 0 * 1000 / 10 ^ digits.length)

/-- Digits behind the ninth do not count for milliseconds. -/
theorem millisecondsOf_take (hdigits : AreDigits digits) : millisecondsOf (digits.take 9) =
    Text.natOfDigits digits * 1000 / 10 ^ digits.length := by
  have hpower : 1000000 * 1000 = 10 ^ 9 := rfl
  rw [millisecondsOf, List.length_take, Text.natOfDigits_take hdigits]
  rcases Nat.le_total digits.length 9 with hshort | hlong
  · rw [Nat.sub_eq_zero_of_le hshort, pow_zero, Nat.div_one, Nat.min_eq_right hshort]
    calc Text.natOfDigits digits * 10 ^ (9 - digits.length) / 1000000
        = Text.natOfDigits digits * 10 ^ (9 - digits.length) * 1000 / (1000000 * 1000) :=
          (Nat.mul_div_mul_right _ _ (by decide)).symm
      _ = Text.natOfDigits digits * 1000 * 10 ^ (9 - digits.length) /
            (10 ^ digits.length * 10 ^ (9 - digits.length)) := by
          rw [hpower, ← pow_add, Nat.add_sub_cancel' hshort, Nat.mul_right_comm]
      _ = Text.natOfDigits digits * 1000 / 10 ^ digits.length :=
          Nat.mul_div_mul_right _ _ (Nat.pow_pos (by decide))
  · rw [Nat.min_eq_left hlong, Nat.sub_self]
    calc Text.natOfDigits digits / 10 ^ (digits.length - 9) * 1 / 1000000
        = Text.natOfDigits digits / (10 ^ (digits.length - 9) * 1000000) := by
          rw [Nat.mul_one, Nat.div_div_eq_div_mul]
      _ = Text.natOfDigits digits * 1000 / (10 ^ (digits.length - 9) * 1000000 * 1000) :=
          (Nat.mul_div_mul_right _ _ (by decide)).symm
      _ = Text.natOfDigits digits * 1000 / 10 ^ digits.length := by
          rw [Nat.mul_assoc, hpower, ← pow_add, Nat.sub_add_cancel hlong]

theorem readFraction_of_isFraction (h : IsFraction fraction millisecond) :
    readFraction fraction = some (millisecond, []) := by
  cases h with
  | none => rfl
  | @digits digits hne hdigits =>
    have hnine : digits.take 9 ≠ [] := by simpa using hne
    have hrest : (digits.drop 9).dropWhile Char.isDigit = [] :=
      List.dropWhile_eq_nil_iff.mpr (hdigits.drop 9)
    rw [readFraction, readDigits_of_take hnine (hdigits.take 9), Option.map_some,
      millisecondsOf_take hdigits, hrest]
    rfl

theorem read_written (hhour : hour < 24) (hminute : minute < 60) (hsecond : second < 60)
    (hfraction : IsFraction fraction millisecond) : read (written hour minute second ++ fraction) =
      some ⟨hour, minute, second, millisecond⟩ := by
  have hh : IsNumeral 2 hour _ := Text.isNumeral_decimalDigits (by decide) (by omega)
  have hm : IsNumeral 2 minute _ := Text.isNumeral_decimalDigits (by decide) (by omega)
  have hs : IsNumeral 2 second _ := Text.isNumeral_decimalDigits (by decide) (by omega)
  simp only [read, written, List.append_assoc, List.cons_append, readShort_append hh,
    readShort_append hm, readShort_append hs, expect_cons, readFraction_of_isFraction hfraction,
    Option.bind_eq_bind, Option.bind_some]
  exact if_pos ⟨hhour, hminute, Nat.le_of_lt hsecond, trivial⟩

theorem dropBlanks_written (hhour : hour < 24) (rest : List Char) :
    Text.dropBlanks (written hour minute second ++ rest) = written hour minute second ++ rest := by
  have hh : IsNumeral 2 hour _ := Text.isNumeral_decimalDigits (by decide) (by omega)
  rw [written, List.append_assoc]
  exact hh.dropBlanks_append (by decide)

/-- No time of day begins with the letter. -/
theorem read_cons_letter (rest : List Char) : read ('T' :: rest) = none := rfl

end TimeOfDay

/-! ### Timestamps -/

namespace Timestamp

variable {year month day hour minute second millisecond : Nat} {separator fraction : List Char}
  {date : Date} {cs rest : List Char}

/-- What stands between the date and the time of day: blanks, if any, or the letter `T`. -/
inductive IsSeparator : List Char → Prop
  | blanks {cs : List Char} (h : AreBlank cs) : IsSeparator cs
  | letter : IsSeparator ['T']

theorem readWith_of_readFront (separate : List Char → Option (List Char))
    (hdate : Date.readFront cs = some (date, rest)) : readWith separate cs =
      ((separate rest).bind TimeOfDay.read).map fun time ↦
        date.number * millisecondsPerDay + time.number := by
  rw [readWith, hdate, Option.map_eq_bind, Option.bind_assoc]
  rfl

theorem readWith_of_readFront_none (separate : List Char → Option (List Char))
    (hdate : Date.readFront cs = none) : readWith separate cs = none := by
  rw [readWith, hdate]
  rfl

/-- By one of the two separators the time of day behind the date is read. -/
theorem read_of_readFront (hhour : hour < 24) (hminute : minute < 60) (hsecond : second < 60)
    (hseparator : IsSeparator separator)
    (hfraction : TimeOfDay.IsFraction fraction millisecond)
    (hdate : Date.readFront cs =
      some (date, separator ++ (TimeOfDay.written hour minute second ++ fraction))) :
    read cs = some (date.number * millisecondsPerDay +
      (TimeOfDay.mk hour minute second millisecond).number) := by
  have htime := TimeOfDay.read_written hhour hminute hsecond hfraction
  rw [read, readWith_of_readFront _ hdate, readWith_of_readFront _ hdate]
  cases hseparator with
  | blanks hblank =>
    rw [Text.dropBlanks_append hblank, TimeOfDay.dropBlanks_written hhour, Option.bind_some, htime]
    rfl
  | letter =>
    have hletter : ∀ clock, Text.dropBlanks ('T' :: clock) = 'T' :: clock := fun _ ↦ rfl
    rw [List.singleton_append, hletter, Option.bind_some, TimeOfDay.read_cons_letter,
      Calendar.expect_cons, Option.bind_some, htime]
    rfl

/-- A timestamp that is written is read as the milliseconds of the days before and of the day. -/
theorem read_written (hyear : year < 10000) (hmonth : month < 100) (hday : day < 100)
    (hhour : hour < 24) (hminute : minute < 60) (hsecond : second < 60)
    (hseparator : IsSeparator separator) (hfraction : TimeOfDay.IsFraction fraction millisecond) :
    read (Date.written year month day ++
        (separator ++ (TimeOfDay.written hour minute second ++ fraction))) =
      (Date.read (Date.written year month day)).map fun days ↦ days * 86400000 +
        ((((hour * 60 + minute) * 60 + second) * 1000 + millisecond : Nat) : Int) := by
  have hread := fun n ↦ Date.read_written_eq_some_iff (n := n) hyear hmonth hday
  have hfront := Date.readFront_written hyear hmonth hday
    (separator ++ (TimeOfDay.written hour minute second ++ fraction))
  simp only [Date.isDayNumber_iff, ← Date.isValid_iff_inCalendar hyear] at hread
  by_cases hvalid : Date.IsValid ⟨year, month, day⟩
  · have hnumber := (hread _).mpr ⟨hvalid, rfl⟩
    rw [if_pos hvalid] at hfront
    rw [read_of_readFront hhour hminute hsecond hseparator hfraction hfront, hnumber]
    rfl
  · have hnone : Date.read (Date.written year month day) = none :=
      Option.eq_none_iff_forall_ne_some.mpr fun n hn ↦ hvalid ((hread n).mp hn).1
    rw [if_neg hvalid] at hfront
    rw [read, readWith_of_readFront_none _ hfront, readWith_of_readFront_none _ hfront, hnone]
    rfl

end Timestamp

/-- Dates and timestamps count one calendar. A date with a year of four digits is read exactly if
the calendar has it, as the number that is counted for it day by day from 1970-01-01 on, or back. A
timestamp is read exactly if its date is, as the milliseconds up to the start of its day and those
of the time of day, what is left of the fraction being dropped. -/
theorem dates_and_timestamps_count_one_calendar {year month day : Nat} (hyear : year < 10000)
    (hmonth : month < 100) (hday : day < 100) :
    ((∃ n, Date.read (Date.written year month day) = some n) ↔
      Date.InCalendar ⟨year, month, day⟩) ∧
    (∀ n, Date.read (Date.written year month day) = some n ↔
      Date.IsDayNumber ⟨year, month, day⟩ n) ∧
    ∀ {hour minute second millisecond separator fraction}, hour < 24 → minute < 60 → second < 60 →
      Timestamp.IsSeparator separator → TimeOfDay.IsFraction fraction millisecond →
        Timestamp.read (Date.written year month day ++
            (separator ++ (TimeOfDay.written hour minute second ++ fraction))) =
          (Date.read (Date.written year month day)).map fun days ↦ days * 86400000 +
            ((((hour * 60 + minute) * 60 + second) * 1000 + millisecond : Nat) : Int) := by
  have hread := fun n ↦ Date.read_written_eq_some_iff (n := n) hyear hmonth hday
  refine ⟨?_, hread, Timestamp.read_written hyear hmonth hday⟩
  simp [hread, Date.isDayNumber_iff]

/-- The last millisecond before the first day that is counted. -/
theorem dates_and_timestamps_count_one_calendar_before_epoch :
    (1969 < 10000 ∧ 12 < 100 ∧ 31 < 100) ∧
    (23 < 24 ∧ 59 < 60 ∧ Timestamp.IsSeparator ['T'] ∧
      TimeOfDay.IsFraction ('.' :: List.replicate 10 '9') 999) ∧
    Date.read "1969-12-31".toList = some (-1) ∧
    Timestamp.read "1969-12-31T23:59:59.9999999999".toList = some (-1) := by
  obtain ⟨-, hdate, htime⟩ :=
    @dates_and_timestamps_count_one_calendar 1969 12 31 (by decide) (by decide) (by decide)
  have hlast : Date.read (Date.written 1969 12 31) = some (-1) :=
    (hdate (-1)).mpr (.previous (.year 1969) .epoch)
  have hnines : AreDigits (List.replicate 10 '9') := by
    intro c hc
    rw [List.eq_of_mem_replicate hc]
    rfl
  have hfraction : TimeOfDay.IsFraction ('.' :: List.replicate 10 '9') 999 :=
    .digits (by decide) hnines
  have hclock := @htime 23 59 59 999 ['T'] _ (by decide) (by decide) (by decide) .letter hfraction
  rw [hlast] at hclock
  exact ⟨by decide, ⟨by decide, by decide, .letter, hfraction⟩, hlast, hclock⟩

end ColumnStore
