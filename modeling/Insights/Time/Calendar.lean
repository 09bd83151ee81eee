/-!
The calendar of the years 1 to 9999, with days counted from the first of January of the year 1. Main
statement: cutting whole years off a day number leaves a day within the year it stops at.
-/

namespace Insights

def isLeapYear (year : Nat) : Bool :=
  year % 4 == 0 && (year % 100 != 0 || year % 400 == 0)

def yearLength (year : Nat) : Nat :=
  if isLeapYear year then 366 else 365

def monthLengths (year : Nat) : List Nat :=
  [31, if isLeapYear year then 29 else 28, 31, 30, 31, 30, 31, 31, 30, 31, 30, 31]

def monthLength (year month : Nat) : Nat :=
  (monthLengths year).getD (month - 1) 0

theorem yearLength_pos (year : Nat) : 0 < yearLength year := by
  unfold yearLength; split <;> omega

/-- A day of the calendar. -/
structure Date where
  year : Nat
  month : Nat
  day : Nat
  year_mem : 1 ≤ year ∧ year ≤ 9999
  month_mem : 1 ≤ month ∧ month ≤ 12
  day_mem : 1 ≤ day ∧ day ≤ monthLength year month
deriving DecidableEq

def Date.ofParts? (year month day : Nat) : Option Date :=
  if h : (1 ≤ year ∧ year ≤ 9999) ∧ (1 ≤ month ∧ month ≤ 12) ∧
      1 ≤ day ∧ day ≤ monthLength year month then
    some ⟨year, month, day, h.1, h.2.1, h.2.2⟩
  else none

/-- The days of the years before a year. -/
def daysBeforeYear (year : Nat) : Nat :=
  365 * (year - 1) + (year - 1) / 4 - (year - 1) / 100 + (year - 1) / 400

def daysBeforeMonth (year month : Nat) : Nat :=
  ((monthLengths year).take (month - 1)).foldl (fun total length => total + length) 0

/-- The number of days from the first day of the year 1 to this one. -/
def Date.number (d : Date) : Nat :=
  daysBeforeYear d.year + daysBeforeMonth d.year d.month + (d.day - 1)

/-- The number of days in the calendar. -/
def calendarDays : Nat := 3652059

/-- Cuts whole years off a number of days that starts with the given year. -/
def cutYears (year days : Nat) : Nat × Nat :=
  if days < yearLength year then (year, days) else cutYears (year + 1) (days - yearLength year)
termination_by days
decreasing_by have := yearLength_pos year; omega

/-- Cuts whole months off a number of days that starts with the given month. -/
def cutMonths (month days : Nat) : List Nat → Nat × Nat
  | [] => (month, days)
  | length :: rest => if days < length then (month, days) else cutMonths (month + 1) (days - length) rest

/-- The day with the given number, if the calendar has it. -/
def Date.ofNumber? (number : Nat) : Option Date :=
  if number < calendarDays then
    let (year, dayOfYear) := cutYears 1 number
    let (month, dayOfMonth) := cutMonths 1 dayOfYear (monthLengths year)
    ofParts? year month (dayOfMonth + 1)
  else none

theorem cutYears_snd_lt (year days : Nat) :
    (cutYears year days).2 < yearLength (cutYears year days).1 := by
  fun_induction cutYears year days with
  | case1 _ _ h => exact h
  | case2 _ _ _ ih => exact ih

end Insights
