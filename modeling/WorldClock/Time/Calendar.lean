/-!
# The calendar

Dates of the Gregorian calendar, extended without end in both directions, with a year 0. A date is
counted in days from 1 January 1970; `Date.ofDayNumber` and `Date.dayNumber` are inverse to each
other (`Date.dayNumber_ofDayNumber`, `Date.ofDayNumber_dayNumber`).
-/

namespace WorldClock

/-! ### Years and months -/

/-- A year divisible by 4 is a leap year, unless it is divisible by 100 and not by 400. -/
def isLeapYear (year : Int) : Bool :=
  year % 4 == 0 && (year % 100 != 0 || year % 400 == 0)

/-- One day in a leap year, none in another. -/
def leapDays (year : Int) : Nat :=
  if isLeapYear year then 1 else 0

theorem leapDays_le_one (year : Int) : leapDays year ≤ 1 := by
  unfold leapDays; split <;> omega

/-- The days of a month. Months are numbered from 1. -/
def daysInMonth (year : Int) (month : Nat) : Nat :=
  if month = 2 then 28 + leapDays year
  else if month = 4 ∨ month = 6 ∨ month = 9 ∨ month = 11 then 30
  else 31

/-- The days from 1 January of year 0 to 1 January of a year. -/
def daysBeforeYear (year : Int) : Int :=
  365 * year + (year + 3) / 4 - (year + 99) / 100 + (year + 399) / 400

/-- The days of a year before the first of a month. -/
def daysBeforeMonth (year : Int) (month : Nat) : Nat :=
  if month ≤ 1 then 0
  else if month = 2 then 31
  else
    leapDays year +
      (if month = 3 then 59
      else if month = 4 then 90
      else if month = 5 then 120
      else if month = 6 then 151
      else if month = 7 then 181
      else if month = 8 then 212
      else if month = 9 then 243
      else if month = 10 then 273
      else if month = 11 then 304
      else 334)

/-- The days from 1 January of year 0 to 1 January 1970. -/
def epochDay : Int := 719528

/-- The days from 1 January 1970 to a day given by year, month and day of the month. -/
def dayNumber (year : Int) (month day : Nat) : Int :=
  daysBeforeYear year + daysBeforeMonth year month + day - 1 - epochDay

theorem daysBeforeYear_succ (year : Int) :
    daysBeforeYear (year + 1) = daysBeforeYear year + 365 + leapDays year := by
  unfold daysBeforeYear leapDays isLeapYear
  by_cases h4 : year % 4 = 0 <;> by_cases h100 : year % 100 = 0 <;>
    by_cases h400 : year % 400 = 0 <;> simp [h4, h100, h400] <;> omega

/-- A year close to the one that holds a day: 400 years have 146097 days. -/
def nearbyYear (day : Int) : Int :=
  400 * day / 146097

/-- The year that holds the day with a given distance from 1 January of year 0. -/
def yearOfDay (day : Int) : Int :=
  if day < daysBeforeYear (nearbyYear day) then nearbyYear day - 1
  else if daysBeforeYear (nearbyYear day + 1) ≤ day then nearbyYear day + 1
  else nearbyYear day

theorem daysBeforeYear_yearOfDay_le (day : Int) : daysBeforeYear (yearOfDay day) ≤ day := by
  unfold yearOfDay nearbyYear
  split
  · next h => simp only [daysBeforeYear] at *; omega
  · split
    · next h => exact h
    · omega

theorem lt_daysBeforeYear_yearOfDay (day : Int) :
    day < daysBeforeYear (yearOfDay day + 1) := by
  unfold yearOfDay nearbyYear
  split
  · next h => simpa using h
  · split
    · next h => simp only [daysBeforeYear] at *; omega
    · omega

theorem daysBeforeYear_mono {a b : Int} (h : a ≤ b) : daysBeforeYear a ≤ daysBeforeYear b := by
  unfold daysBeforeYear; omega

/-- A day belongs to the one year whose first day it does not precede and whose last it does not
follow. -/
theorem yearOfDay_eq {year day : Int} (hlow : daysBeforeYear year ≤ day)
    (hhigh : day < daysBeforeYear (year + 1)) : yearOfDay day = year := by
  have h₁ := daysBeforeYear_yearOfDay_le day
  have h₂ := lt_daysBeforeYear_yearOfDay day
  rcases Int.lt_trichotomy (yearOfDay day) year with h | h | h
  · have := daysBeforeYear_mono (show yearOfDay day + 1 ≤ year by omega); omega
  · exact h
  · have := daysBeforeYear_mono (show year + 1 ≤ yearOfDay day by omega); omega

/-- The month that holds the day with a given distance from 1 January of its year. -/
def monthOfDay (year : Int) (day : Nat) : Nat :=
  if day < 31 then 1
  else if day < 59 + leapDays year then 2
  else if day < 90 + leapDays year then 3
  else if day < 120 + leapDays year then 4
  else if day < 151 + leapDays year then 5
  else if day < 181 + leapDays year then 6
  else if day < 212 + leapDays year then 7
  else if day < 243 + leapDays year then 8
  else if day < 273 + leapDays year then 9
  else if day < 304 + leapDays year then 10
  else if day < 334 + leapDays year then 11
  else 12

theorem monthOfDay_mem (year : Int) (day : Nat) :
    1 ≤ monthOfDay year day ∧ monthOfDay year day ≤ 12 := by
  unfold monthOfDay
  repeat' split
  all_goals omega

theorem daysBeforeMonth_monthOfDay_le (year : Int) (day : Nat) :
    daysBeforeMonth year (monthOfDay year day) ≤ day := by
  unfold monthOfDay
  repeat' split
  all_goals simp [daysBeforeMonth]
  all_goals omega

theorem lt_daysBeforeMonth_monthOfDay (year : Int) (day : Nat) (h : day < 365 + leapDays year) :
    day < daysBeforeMonth year (monthOfDay year day) + daysInMonth year (monthOfDay year day) := by
  unfold monthOfDay
  repeat' split
  all_goals simp [daysBeforeMonth, daysInMonth]
  all_goals omega

theorem month_cases {month : Nat} (hpos : 1 ≤ month) (hle : month ≤ 12) :
    month = 1 ∨ month = 2 ∨ month = 3 ∨ month = 4 ∨ month = 5 ∨ month = 6 ∨ month = 7 ∨
      month = 8 ∨ month = 9 ∨ month = 10 ∨ month = 11 ∨ month = 12 := by
  omega

theorem daysBeforeMonth_add_le (year : Int) {month day : Nat} (hpos : 1 ≤ month)
    (hle : month ≤ 12) (hday : day ≤ daysInMonth year month) :
    daysBeforeMonth year month + day ≤ 365 + leapDays year := by
  have hleap := leapDays_le_one year
  rcases month_cases hpos hle with
    rfl | rfl | rfl | rfl | rfl | rfl | rfl | rfl | rfl | rfl | rfl | rfl <;>
    simp [daysBeforeMonth, daysInMonth] at hday ⊢ <;> omega

theorem monthOfDay_add (year : Int) {month day : Nat} (hpos : 1 ≤ month) (hle : month ≤ 12)
    (hday : day < daysInMonth year month) :
    monthOfDay year (daysBeforeMonth year month + day) = month := by
  have hleap := leapDays_le_one year
  rcases month_cases hpos hle with
    rfl | rfl | rfl | rfl | rfl | rfl | rfl | rfl | rfl | rfl | rfl | rfl <;>
    simp [daysBeforeMonth, daysInMonth] at hday ⊢ <;> unfold monthOfDay <;> grind

/-! ### Dates -/

/-- A day of the calendar. -/
@[ext]
structure Date where
  year : Int
  month : Nat
  day : Nat
  month_pos : 1 ≤ month
  month_le : month ≤ 12
  day_pos : 1 ≤ day
  day_le : day ≤ daysInMonth year month
deriving DecidableEq, Repr

namespace Date

/-- The date with these numbers, if there is one. -/
def ofFields? (year : Int) (month day : Nat) : Option Date :=
  if h : 1 ≤ month ∧ month ≤ 12 ∧ 1 ≤ day ∧ day ≤ daysInMonth year month then
    some ⟨year, month, day, h.1, h.2.1, h.2.2.1, h.2.2.2⟩
  else none

/-- The days from 1 January 1970 to a date. -/
def dayNumber (date : Date) : Int :=
  WorldClock.dayNumber date.year date.month date.day

/-- The date that lies a number of days after 1 January of a year. -/
def ofDayOfYear (year : Int) (day : Nat) (h : day < 365 + leapDays year) : Date where
  year := year
  month := monthOfDay year day
  day := day - daysBeforeMonth year (monthOfDay year day) + 1
  month_pos := (monthOfDay_mem year day).1
  month_le := (monthOfDay_mem year day).2
  day_pos := Nat.succ_pos _
  day_le := by
    have := lt_daysBeforeMonth_monthOfDay year day h
    have := daysBeforeMonth_monthOfDay_le year day
    omega

/-- The date that lies a number of days after 1 January 1970. -/
def ofDayNumber (number : Int) : Date :=
  ofDayOfYear (yearOfDay (number + epochDay))
    (number + epochDay - daysBeforeYear (yearOfDay (number + epochDay))).toNat
    (by
      have hlow := daysBeforeYear_yearOfDay_le (number + epochDay)
      have hhigh := lt_daysBeforeYear_yearOfDay (number + epochDay)
      rw [daysBeforeYear_succ] at hhigh
      omega)

@[simp]
theorem dayNumber_ofDayNumber (number : Int) : (ofDayNumber number).dayNumber = number := by
  have hlow := daysBeforeYear_yearOfDay_le (number + epochDay)
  have hmonth := daysBeforeMonth_monthOfDay_le (yearOfDay (number + epochDay))
    (number + epochDay - daysBeforeYear (yearOfDay (number + epochDay))).toNat
  simp only [dayNumber, ofDayNumber, ofDayOfYear, WorldClock.dayNumber]
  omega

theorem dayNumber_add_epochDay (date : Date) :
    date.dayNumber + epochDay =
      daysBeforeYear date.year + (daysBeforeMonth date.year date.month + (date.day - 1) : Nat) := by
  have := date.day_pos
  simp only [dayNumber, WorldClock.dayNumber]
  omega

@[simp]
theorem ofDayNumber_dayNumber (date : Date) : ofDayNumber date.dayNumber = date := by
  have hyear : yearOfDay (date.dayNumber + epochDay) = date.year := by
    have hle := daysBeforeMonth_add_le date.year date.month_pos date.month_le date.day_le
    have hpos := date.day_pos
    apply yearOfDay_eq
    · rw [dayNumber_add_epochDay]; omega
    · rw [dayNumber_add_epochDay, daysBeforeYear_succ]; omega
  have hday : (date.dayNumber + epochDay - daysBeforeYear date.year).toNat =
      daysBeforeMonth date.year date.month + (date.day - 1) := by
    rw [dayNumber_add_epochDay]; omega
  have hlt : date.day - 1 < daysInMonth date.year date.month := by
    have := date.day_pos
    have := date.day_le
    omega
  have hmonth := monthOfDay_add date.year date.month_pos date.month_le hlt
  ext
  · simpa [ofDayNumber, ofDayOfYear] using hyear
  · simp only [ofDayNumber, ofDayOfYear, hyear, hday, hmonth]
  · simp only [ofDayNumber, ofDayOfYear, hyear, hday, hmonth]
    have := date.day_pos
    omega

end Date

/-! ### Days of the week -/

/-- The days of the week, from Monday. -/
inductive Weekday
  | monday | tuesday | wednesday | thursday | friday | saturday | sunday
deriving DecidableEq, Repr

/-- The days from Monday to a day of the week. -/
def Weekday.index : Weekday → Int
  | monday => 0
  | tuesday => 1
  | wednesday => 2
  | thursday => 3
  | friday => 4
  | saturday => 5
  | sunday => 6

/-- The number of the first day from `number` on that falls on a day of the week. Day 0 is a
Thursday. -/
def Weekday.onOrAfter (weekday : Weekday) (number : Int) : Int :=
  number + (weekday.index - (number + 3)) % 7

end WorldClock
