import DomainModel.Time.Date
import Mathlib.Algebra.Order.Ring.Int
import Mathlib.Tactic.IntervalCases

/-! The calendar that dates follow. A date is found from the number of its day by taking the number apart; the calendar
says instead which date comes after which: the days of a month follow each other, after the last one a month begins, and
after December a year, where February has a leap day in one year of four but in one of four centuries only. The first of
January of 1970 is day 0 and the date of the next day is the next date, so the dates are those of the Gregorian
calendar, before its introduction too, and a later day has a later date. -/

namespace DomainModel.Time

/-! ### The Gregorian calendar -/

/-- Every fourth year is a leap year, except at the end of a century that does not end an era. -/
def IsLeapYear (year : Int) : Prop := year % 4 = 0 ∧ (year % 100 ≠ 0 ∨ year % 400 = 0)

instance (year : Int) : Decidable (IsLeapYear year) := inferInstanceAs (Decidable (_ ∧ _))

/-- The days of a month. -/
def daysInMonth (year : Int) (month : Nat) : Nat :=
  if month = 2 then if IsLeapYear year then 29 else 28
  else if month ∈ [4, 6, 9, 11] then 30
  else 31

namespace Date

theorem eq_of_parts {date other : Date} (hyear : date.year = other.year) (hmonth : date.month = other.month)
    (hday : date.day = other.day) : date = other := by
  cases date
  cases other
  simp_all

/-- The date that follows. -/
def next (date : Date) : Date :=
  if date.day < daysInMonth date.year date.month then { date with day := date.day + 1 }
  else if date.month < 12 then ⟨date.year, date.month + 1, 1⟩
  else ⟨date.year + 1, 1, 1⟩

/-- One date comes before another. -/
def Before (date other : Date) : Prop :=
  date.year < other.year ∨ date.year = other.year ∧
    (date.month < other.month ∨ date.month = other.month ∧ date.day < other.day)

theorem Before.trans {first second third : Date} (h : first.Before second) (h' : second.Before third) :
    first.Before third := by
  simp only [Before] at *
  omega

theorem not_before_self (date : Date) : ¬ date.Before date := by
  simp [Before]

theorem before_next (date : Date) : date.Before date.next := by
  rw [next]
  split
  · exact .inr ⟨rfl, .inr ⟨rfl, Nat.lt_succ_self _⟩⟩
  · split
    · exact .inr ⟨rfl, .inl (Nat.lt_succ_self _)⟩
    · exact .inl (Int.lt_succ _)

end Date

/-! ### Years that begin with March -/

/-- The days before the first of March of a year, counted from year 0. -/
def yearStart (year : Int) : Int := 365 * year + year / 4 - year / 100 + year / 400

/-- The days from one first of March to the next; the leap day is at the end. -/
def yearLength (year : Int) : Nat := if IsLeapYear (year + 1) then 366 else 365

theorem yearLength_cases (year : Int) :
    IsLeapYear (year + 1) ∧ yearLength year = 366 ∨ ¬ IsLeapYear (year + 1) ∧ yearLength year = 365 := by
  by_cases h : IsLeapYear (year + 1)
  · exact .inl ⟨h, if_pos h⟩
  · exact .inr ⟨h, if_neg h⟩

theorem yearStart_succ (year : Int) : yearStart (year + 1) = yearStart year + yearLength year := by
  rcases yearLength_cases year with ⟨hleap, hlength⟩ | ⟨hleap, hlength⟩ <;>
    simp only [IsLeapYear, yearStart, hlength] at * <;> omega

theorem yearStart_le {year later : Int} (h : year ≤ later) : yearStart year ≤ yearStart later := by
  induction later, h using Int.leInduction with
  | base => exact Int.le_refl _
  | succ later hle ih =>
      rw [yearStart_succ]
      omega

namespace MarchDay

/-- The parts of a day number are in their bounds: only the last year of a period has a leap day, but for the last
period of a century that does not end an era. -/
structure InBounds (day : MarchDay) : Prop where
  century : day.century ≤ 3
  period : day.period ≤ 24
  yearOfPeriod : day.yearOfPeriod ≤ 3
  dayOfYear : day.dayOfYear < 365 ∨
    day.dayOfYear = 365 ∧ day.yearOfPeriod = 3 ∧ (day.period < 24 ∨ day.century = 3)

/-- Taking a day number apart gives parts in their bounds, and they make up the number. -/
theorem ofNumber_spec (number : Int) :
    (ofNumber number).InBounds ∧
      146097 * (ofNumber number).era + (36524 * (ofNumber number).century + 1461 * (ofNumber number).period +
        365 * (ofNumber number).yearOfPeriod + (ofNumber number).dayOfYear : Nat) = number := by
  have hera : (number % daysInEra).toNat < 146097 ∧
      146097 * (number / daysInEra) + ((number % daysInEra).toNat : Int) = number := by
    rw [daysInEra]
    omega
  simp only [ofNumber, daysInCentury, daysInPeriod, daysInYear]
  generalize (number % daysInEra).toNat = inEra at hera
  obtain ⟨hbound, hnumber⟩ := hera
  refine ⟨⟨?_, ?_, ?_, ?_⟩, ?_⟩
  · exact Nat.min_le_left _ _
  · dsimp only
    omega
  · exact Nat.min_le_left _ _
  · dsimp only
    omega
  · refine Eq.trans ?_ hnumber
    omega

/-- The number of a day is the number of the days before its year and of those before it in the year. -/
theorem yearStart_ofNumber (number : Int) :
    yearStart (ofNumber number).year + (ofNumber number).dayOfYear = number ∧
      (ofNumber number).dayOfYear < yearLength (ofNumber number).year := by
  obtain ⟨hbounds, hnumber⟩ := ofNumber_spec number
  obtain ⟨hcentury, hperiod, hyear, hday⟩ := hbounds
  have hstart : yearStart (ofNumber number).year = 146097 * (ofNumber number).era + (36524 * (ofNumber number).century +
      1461 * (ofNumber number).period + 365 * (ofNumber number).yearOfPeriod : Nat) := by
    rw [yearStart, MarchDay.year]
    omega
  refine ⟨by rw [hstart]; omega, ?_⟩
  rcases yearLength_cases (ofNumber number).year with ⟨-, hlength⟩ | ⟨hleap, hlength⟩
  · omega
  · -- a day in the place of the leap day would make the year one
    rw [hlength]
    refine hday.resolve_right fun hlast => hleap ?_
    rw [IsLeapYear, MarchDay.year]
    omega

end MarchDay

/-! ### Months -/

/-- The days of a year before its months, counted from March. -/
def monthStart (month : Nat) : Nat := (153 * month + 2) / 5

theorem monthStart_le_succ (month : Nat) : monthStart month + 30 ≤ monthStart (month + 1) := by
  simp only [monthStart]
  omega

/-- The date of a day of a month of a year that begins with March. -/
def dateInMonth (year : Int) (month day : Nat) : Date :=
  if month < 10 then ⟨year, month + 3, day⟩ else ⟨year + 1, month - 9, day⟩

/-- The date of a day of a year that begins with March. -/
def dateInYear (year : Int) (day : Nat) : Date :=
  dateInMonth year ((5 * day + 2) / 153) (day - monthStart ((5 * day + 2) / 153) + 1)

theorem toDate_eq_dateInYear (day : MarchDay) : day.toDate = dateInYear day.year day.dayOfYear := rfl

theorem dateInYear_of_month (year : Int) {month day : Nat} (hfirst : monthStart month ≤ day)
    (hlast : day < monthStart (month + 1)) : dateInYear year day = dateInMonth year month (day - monthStart month + 1) := by
  have hmonth : (5 * day + 2) / 153 = month := by
    simp only [monthStart] at hfirst hlast
    omega
  rw [dateInYear, hmonth]

/-- From March to January the months are as long as the calendar says. -/
theorem next_dateInMonth (year : Int) {month : Nat} (h : month < 11) (day : Nat) :
    (dateInMonth year month day).next =
      if day < monthStart (month + 1) - monthStart month then dateInMonth year month (day + 1)
      else dateInMonth year (month + 1) 1 := by
  interval_cases month <;> rfl

/-- February is as long as what is left of the year. -/
theorem next_dateInFebruary (year : Int) (day : Nat) :
    (dateInMonth year 11 day).next =
      if day < yearLength year - monthStart 11 then dateInMonth year 11 (day + 1) else dateInMonth (year + 1) 0 1 := by
  have hdays : daysInMonth (year + 1) 2 = yearLength year - monthStart 11 := by
    rw [daysInMonth, if_pos rfl, yearLength]
    split <;> rfl
  rw [← hdays]
  rfl

/-- The days of a year follow each other by the calendar, and behind its last day comes the first day of the next. -/
theorem next_dateInYear {year : Int} {day : Nat} (h : day < yearLength year) :
    (dateInYear year day).next =
      if day + 1 < yearLength year then dateInYear year (day + 1) else dateInYear (year + 1) 0 := by
  have hlength : 365 ≤ yearLength year ∧ yearLength year ≤ 366 := by
    rcases yearLength_cases year with ⟨-, hlength⟩ | ⟨-, hlength⟩ <;> omega
  obtain ⟨month, hfirst, hlast⟩ : ∃ month, monthStart month ≤ day ∧ day < monthStart (month + 1) := by
    refine ⟨(5 * day + 2) / 153, ?_⟩
    simp only [monthStart]
    omega
  have hmonth : month ≤ 11 := by
    simp only [monthStart] at hfirst
    omega
  rw [dateInYear_of_month year hfirst hlast]
  rcases Nat.lt_or_eq_of_le hmonth with hmarch | rfl
  · have hends : monthStart (month + 1) ≤ 337 := by
      simp only [monthStart]
      omega
    rw [next_dateInMonth year hmarch, if_pos (by omega : day + 1 < yearLength year)]
    split
    · rw [dateInYear_of_month year (by omega : monthStart month ≤ day + 1) (by omega)]
      congr 1
      omega
    · have hbegins := monthStart_le_succ (month + 1)
      rw [dateInYear_of_month year (by omega : monthStart (month + 1) ≤ day + 1) (by omega)]
      congr 1
      omega
  · have hstart : monthStart 11 = 337 := rfl
    have hend : monthStart (11 + 1) = 367 := rfl
    rw [next_dateInFebruary]
    split
    · rw [if_pos (by omega : day + 1 < yearLength year),
        dateInYear_of_month year (by omega : monthStart 11 ≤ day + 1) (by omega),
        show day + 1 - monthStart 11 + 1 = day - monthStart 11 + 1 + 1 by omega]
    · rw [if_neg (by omega : ¬ day + 1 < yearLength year)]
      rfl

/-! ### Day numbers -/

/-- A day has one place in one year. -/
theorem place_unique {year other : Int} {day place : Nat} (hday : day < yearLength year)
    (hplace : place < yearLength other) (h : yearStart year + day = yearStart other + place) :
    year = other ∧ day = place := by
  have hyear : year = other := by
    rcases lt_trichotomy year other with hbefore | hsame | hbehind
    · have hmono := yearStart_le (Int.add_one_le_of_lt hbefore)
      rw [yearStart_succ] at hmono
      omega
    · exact hsame
    · have hmono := yearStart_le (Int.add_one_le_of_lt hbehind)
      rw [yearStart_succ] at hmono
      omega
  subst hyear
  exact ⟨rfl, by omega⟩

namespace Date

theorem ofDayNumber_of_place {days year : Int} {day : Nat} (hday : day < yearLength year)
    (h : yearStart year + day = days + epochDay) : ofDayNumber days = dateInYear year day := by
  obtain ⟨hstart, hplace⟩ := MarchDay.yearStart_ofNumber (days + epochDay)
  obtain ⟨hyear, hdays⟩ := place_unique hplace hday (hstart.trans h.symm)
  rw [ofDayNumber, toDate_eq_dateInYear, hyear, hdays]

/-- The first of January of 1970 is day 0. -/
theorem ofDayNumber_zero : ofDayNumber 0 = ⟨1970, 1, 1⟩ := rfl

/-- The date of the next day is the next date. -/
theorem ofDayNumber_succ (days : Int) : ofDayNumber (days + 1) = (ofDayNumber days).next := by
  obtain ⟨hstart, hplace⟩ := MarchDay.yearStart_ofNumber (days + epochDay)
  rw [ofDayNumber_of_place hplace hstart, next_dateInYear hplace]
  split
  · next hsame => exact ofDayNumber_of_place hsame (by omega)
  · next hlast =>
      refine ofDayNumber_of_place ?_ ?_
      · rcases yearLength_cases ((MarchDay.ofNumber (days + epochDay)).year + 1) with ⟨-, hlength⟩ | ⟨-, hlength⟩ <;>
          omega
      · rw [yearStart_succ]
        omega

/-- A later day has a later date. -/
theorem before_ofDayNumber {days later : Int} (h : days < later) : (ofDayNumber days).Before (ofDayNumber later) := by
  induction later, Int.add_one_le_of_lt h using Int.leInduction with
  | base =>
      rw [ofDayNumber_succ]
      exact before_next _
  | succ later hle ih =>
      rw [ofDayNumber_succ]
      exact (ih hle).trans (before_next _)

/-- Months are counted from 1 to 12 and days from 1 to 31. -/
theorem bounds_ofDayNumber (days : Int) :
    (1 ≤ (ofDayNumber days).month ∧ (ofDayNumber days).month ≤ 12) ∧
      1 ≤ (ofDayNumber days).day ∧ (ofDayNumber days).day ≤ 31 := by
  obtain ⟨hstart, hplace⟩ := MarchDay.yearStart_ofNumber (days + epochDay)
  have hlength : (MarchDay.ofNumber (days + epochDay)).dayOfYear < 366 := by
    rcases yearLength_cases (MarchDay.ofNumber (days + epochDay)).year with ⟨-, hlength⟩ | ⟨-, hlength⟩ <;> omega
  rw [ofDayNumber_of_place hplace hstart, dateInYear, dateInMonth, monthStart]
  split <;> refine ⟨⟨?_, ?_⟩, ?_, ?_⟩ <;> dsimp only <;> omega

theorem ofDayNumber_injective : Function.Injective ofDayNumber := by
  intro days other hsame
  rcases lt_trichotomy days other with hbefore | heq | hbehind
  · exact absurd (hsame ▸ before_ofDayNumber hbefore) (not_before_self _)
  · exact heq
  · exact absurd (hsame ▸ before_ofDayNumber hbehind) (not_before_self _)

end Date

end DomainModel.Time
