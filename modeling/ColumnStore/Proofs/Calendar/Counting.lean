import ColumnStore.Calendar.Date
import Mathlib.Algebra.Order.Ring.Int
import Mathlib.Tactic.FinCases

/-!
# The days of the calendar, counted

`Date.InCalendar` says which dates there are and `Date.Follows` which one is the day after another,
both from the lengths of the months. `Date.IsDayNumber` is the count that this makes: 1970-01-01 is
day zero, and going on or back by one day adds or takes one. Every date of the calendar is reached
in this way, and its day number is the one that is computed from the year, the month and the day.
-/

set_option autoImplicit false

namespace ColumnStore

namespace Calendar

variable {year : Int} {month last : Nat}

/-- Every fourth year has a 29th of February, but of the years that a hundred divides only every
fourth. -/
def IsLeap (year : Int) : Prop := 4 ∣ year ∧ (100 ∣ year → 400 ∣ year)

/-- The last day of a month. -/
inductive IsLastDay : Int → Nat → Nat → Prop
  | long {year : Int} {month : Nat} (h : month ∈ [1, 3, 5, 7, 8, 10, 12]) : IsLastDay year month 31
  | short {year : Int} {month : Nat} (h : month ∈ [4, 6, 9, 11]) : IsLastDay year month 30
  | leap {year : Int} (h : IsLeap year) : IsLastDay year 2 29
  | common {year : Int} (h : ¬ IsLeap year) : IsLastDay year 2 28

theorem isLeapYear_iff : isLeapYear year = true ↔ IsLeap year := by
  simp only [isLeapYear, IsLeap, Bool.or_eq_true, Bool.and_eq_true, beq_iff_eq, bne_iff_ne]
  omega

theorem IsLastDay.eq_daysInMonth (h : IsLastDay year month last) :
    last = daysInMonth year month := by
  cases h with
  | long h => fin_cases h <;> rfl
  | short h => fin_cases h <;> rfl
  | leap h => exact (if_pos (isLeapYear_iff.mpr h)).symm
  | common h => exact (if_neg (h ∘ isLeapYear_iff.mp)).symm

theorem IsLastDay.month_bounds (h : IsLastDay year month last) : 1 ≤ month ∧ month ≤ 12 := by
  cases h with
  | long h => fin_cases h <;> decide
  | short h => fin_cases h <;> decide
  | leap h => decide
  | common h => decide

theorem IsLastDay.pos (h : IsLastDay year month last) : 1 ≤ last := by
  cases h <;> decide

theorem exists_isLastDay (year : Int) (hleast : 1 ≤ month) (hgreatest : month ≤ 12) :
    ∃ last, IsLastDay year month last := by
  by_cases hfebruary : month = 2
  · subst hfebruary
    by_cases hleap : IsLeap year
    · exact ⟨29, .leap hleap⟩
    · exact ⟨28, .common hleap⟩
  · by_cases hshort : month ∈ [4, 6, 9, 11]
    · exact ⟨30, .short hshort⟩
    · refine ⟨31, .long ?_⟩
      simp only [List.mem_cons, List.not_mem_nil, or_false] at hshort ⊢
      omega

/-! ### Days before a month and a year -/

/-- The days of a month stand between its start and the start of the next. -/
theorem daysBeforeMonth_succ (year : Int) (h : 1 ≤ month) :
    daysBeforeMonth year (month + 1) = daysBeforeMonth year month + daysInMonth year month := by
  obtain ⟨before, rfl⟩ := Nat.exists_eq_add_of_le' h
  rw [daysBeforeMonth, daysBeforeMonth, Nat.add_sub_cancel, Nat.add_sub_cancel, List.range_succ,
    List.foldl_append]
  rfl

/-- The last month ends after 366 days in a leap year, and after 365 in another one. -/
theorem daysBeforeYear_succ (year : Int) : daysBeforeYear (year + 1) =
    daysBeforeYear year + daysBeforeMonth year 12 + 31 := by
  have hmonths : daysBeforeMonth year 12 = if isLeapYear year then 335 else 334 := by
    cases h : isLeapYear year <;> simp [daysBeforeMonth, daysInMonth, List.range_succ, h]
  -- the three quotients together grow by one in a leap year, and in no other
  unfold daysBeforeYear
  by_cases hleap : IsLeap year
  · rw [hmonths, if_pos (isLeapYear_iff.mpr hleap)]
    unfold IsLeap at hleap
    omega
  · rw [hmonths, if_neg (hleap ∘ isLeapYear_iff.mp)]
    unfold IsLeap at hleap
    omega

end Calendar

namespace Date

open Calendar

variable {date next : Date} {n : Int} {year : Int} {month day last : Nat}

/-- The month has this day. -/
def InCalendar (date : Date) : Prop :=
  1 ≤ date.day ∧ ∃ last, IsLastDay date.year date.month last ∧ date.day ≤ last

/-- The second date is the day after the first. -/
inductive Follows : Date → Date → Prop
  | day {year : Int} {month day last : Nat} (hlast : IsLastDay year month last) (hleast : 1 ≤ day)
      (hday : day < last) : Follows ⟨year, month, day⟩ ⟨year, month, day + 1⟩
  | month {year : Int} {month last : Nat} (hlast : IsLastDay year month last)
      (hmonth : month < 12) : Follows ⟨year, month, last⟩ ⟨year, month + 1, 1⟩
  | year (year : Int) : Follows ⟨year, 12, 31⟩ ⟨year + 1, 1, 1⟩

/-- The number of a day, counted day by day from 1970-01-01 in either direction. -/
inductive IsDayNumber : Date → Int → Prop
  | epoch : IsDayNumber ⟨1970, 1, 1⟩ 0
  | next {date next : Date} {n : Int} (hfollows : Follows date next) (h : IsDayNumber date n) :
      IsDayNumber next (n + 1)
  | previous {date next : Date} {n : Int} (hfollows : Follows date next) (h : IsDayNumber next n) :
      IsDayNumber date (n - 1)

theorem inCalendar_iff : date.InCalendar ↔ 1 ≤ date.month ∧ date.month ≤ 12 ∧ 1 ≤ date.day ∧
    date.day ≤ daysInMonth date.year date.month := by
  constructor
  · rintro ⟨hday, last, hlast, hle⟩
    rw [hlast.eq_daysInMonth] at hle
    exact ⟨hlast.month_bounds.1, hlast.month_bounds.2, hday, hle⟩
  · rintro ⟨hleast, hgreatest, hday, hle⟩
    obtain ⟨last, hlast⟩ := exists_isLastDay date.year hleast hgreatest
    rw [← hlast.eq_daysInMonth] at hle
    exact ⟨hday, last, hlast, hle⟩

theorem inCalendar_first (hleast : 1 ≤ month) (hgreatest : month ≤ 12) :
    InCalendar ⟨year, month, 1⟩ := by
  obtain ⟨last, hlast⟩ := exists_isLastDay year hleast hgreatest
  exact ⟨Nat.le_refl 1, last, hlast, hlast.pos⟩

theorem inCalendar_last (hlast : IsLastDay year month last) : InCalendar ⟨year, month, last⟩ :=
  ⟨hlast.pos, last, hlast, Nat.le_refl last⟩

theorem Follows.inCalendar (h : Follows date next) : date.InCalendar ∧ next.InCalendar := by
  cases h with
  | day hlast hleast hday =>
    exact ⟨⟨hleast, _, hlast, Nat.le_of_lt hday⟩, ⟨Nat.succ_pos _, _, hlast, hday⟩⟩
  | month hlast hmonth => exact ⟨inCalendar_last hlast, inCalendar_first (Nat.succ_pos _) hmonth⟩
  | year year =>
    exact ⟨inCalendar_last (.long (by decide)), inCalendar_first (by decide) (by decide)⟩

/-! ### Counting and computing -/

/-- One day more is one number more. -/
theorem Follows.number_eq (h : Follows date next) : next.number = date.number + 1 := by
  cases h with
  | day hlast hleast hday =>
    simp only [number]
    omega
  | @month year month last hlast hmonth =>
    have hmonths := daysBeforeMonth_succ year hlast.month_bounds.1
    have hdays := hlast.eq_daysInMonth
    simp only [number]
    omega
  | year year =>
    have hyears := daysBeforeYear_succ year
    have hfirst : daysBeforeMonth (year + 1) 1 = 0 := rfl
    simp only [number]
    omega

/-- The number that is counted is the one that is computed. -/
theorem IsDayNumber.eq_number (h : IsDayNumber date n) : date.InCalendar ∧ n = date.number := by
  induction h with
  | epoch => exact ⟨inCalendar_first (by decide) (by decide), number_epoch.symm⟩
  | next hfollows _ ih => exact ⟨hfollows.inCalendar.2, by rw [ih.2, hfollows.number_eq]⟩
  | previous hfollows _ ih =>
    exact ⟨hfollows.inCalendar.1, by rw [ih.2, hfollows.number_eq, Int.add_sub_cancel]⟩

/-- The day after is counted if the day is. -/
theorem Follows.isDayNumber_iff (h : Follows date next) :
    IsDayNumber next next.number ↔ IsDayNumber date date.number := by
  rw [h.number_eq]
  refine ⟨fun hnext ↦ ?_, .next h⟩
  have hprevious := hnext.previous h
  rwa [Int.add_sub_cancel] at hprevious

/-- The days of a month are counted together with its first day. -/
theorem isDayNumber_iff_first_day (hlast : IsLastDay year month last) (hleast : 1 ≤ day)
    (hday : day ≤ last) : IsDayNumber ⟨year, month, day⟩ (number ⟨year, month, day⟩) ↔
      IsDayNumber ⟨year, month, 1⟩ (number ⟨year, month, 1⟩) := by
  induction day, hleast using Nat.le_induction with
  | base => exact Iff.rfl
  | succ day hleast ih =>
    exact (Follows.day hlast hleast hday).isDayNumber_iff.trans (ih (by omega))

/-- The months of a year are counted together with the first one. -/
theorem isDayNumber_iff_first_month (hleast : 1 ≤ month) (hgreatest : month ≤ 12) :
    IsDayNumber ⟨year, month, 1⟩ (number ⟨year, month, 1⟩) ↔
      IsDayNumber ⟨year, 1, 1⟩ (number ⟨year, 1, 1⟩) := by
  induction month, hleast using Nat.le_induction with
  | base => exact Iff.rfl
  | succ month hleast ih =>
    obtain ⟨last, hlast⟩ := exists_isLastDay year hleast (by omega)
    calc IsDayNumber ⟨year, month + 1, 1⟩ (number ⟨year, month + 1, 1⟩)
        ↔ IsDayNumber ⟨year, month, last⟩ (number ⟨year, month, last⟩) :=
          (Follows.month hlast hgreatest).isDayNumber_iff
      _ ↔ IsDayNumber ⟨year, month, 1⟩ (number ⟨year, month, 1⟩) :=
          isDayNumber_iff_first_day hlast hlast.pos (Nat.le_refl last)
      _ ↔ IsDayNumber ⟨year, 1, 1⟩ (number ⟨year, 1, 1⟩) := ih (by omega)

/-- A year is counted together with the next one. -/
theorem isDayNumber_iff_next_year (year : Int) :
    IsDayNumber ⟨year + 1, 1, 1⟩ (number ⟨year + 1, 1, 1⟩) ↔
      IsDayNumber ⟨year, 1, 1⟩ (number ⟨year, 1, 1⟩) := by
  have hlast : IsLastDay year 12 31 := .long (by decide)
  calc IsDayNumber ⟨year + 1, 1, 1⟩ (number ⟨year + 1, 1, 1⟩)
      ↔ IsDayNumber ⟨year, 12, 31⟩ (number ⟨year, 12, 31⟩) := (Follows.year year).isDayNumber_iff
    _ ↔ IsDayNumber ⟨year, 12, 1⟩ (number ⟨year, 12, 1⟩) :=
        isDayNumber_iff_first_day hlast (by decide) (by decide)
    _ ↔ IsDayNumber ⟨year, 1, 1⟩ (number ⟨year, 1, 1⟩) :=
        isDayNumber_iff_first_month (by decide) (by decide)

/-- Every year is counted, those before 1970 backwards. -/
theorem isDayNumber_first (year : Int) : IsDayNumber ⟨year, 1, 1⟩ (number ⟨year, 1, 1⟩) := by
  refine year.inductionOn' 1970 ?_ (fun year _ ih ↦ ?_) fun year _ ih ↦ ?_
  · rw [number_epoch]
    exact .epoch
  · exact (isDayNumber_iff_next_year year).mpr ih
  · rw [← Int.sub_add_cancel year 1] at ih
    exact (isDayNumber_iff_next_year (year - 1)).mp ih

/-- The dates of the calendar are counted, and their numbers are the ones that are computed. -/
theorem isDayNumber_iff : IsDayNumber date n ↔ date.InCalendar ∧ n = date.number := by
  refine ⟨IsDayNumber.eq_number, ?_⟩
  rintro ⟨⟨hday, last, hlast, hle⟩, rfl⟩
  have hmonth := hlast.month_bounds
  exact (isDayNumber_iff_first_day hlast hday hle).mpr
    ((isDayNumber_iff_first_month hmonth.1 hmonth.2).mpr (isDayNumber_first date.year))

end Date

end ColumnStore
