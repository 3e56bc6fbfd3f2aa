/-
Dates of the proleptic Gregorian calendar: the length of months, neighbouring
days, day numbers and weeks.
-/

namespace Stencil

structure Date where
  year : Int
  month : Nat
  day : Nat
deriving DecidableEq, Repr, Inhabited

namespace Date

/-- The years for which dates exist. -/
def minYear : Int := -262143

def maxYear : Int := 262142

def isLeapYear (year : Int) : Bool :=
  year % 4 == 0 && (year % 100 != 0 || year % 400 == 0)

def monthLength (year : Int) (month : Nat) : Nat :=
  match month with
  | 2 => if isLeapYear year then 29 else 28
  | 4 => 30
  | 6 => 30
  | 9 => 30
  | 11 => 30
  | _ => 31

/-- Whether the date is one of the calendar. -/
def isValid (d : Date) : Bool :=
  minYear ≤ d.year && d.year ≤ maxYear &&
    1 ≤ d.month && d.month ≤ 12 && 1 ≤ d.day &&
      d.day ≤ monthLength d.year d.month

/-- The following day. -/
def next (d : Date) : Date :=
  if d.day < monthLength d.year d.month then { d with day := d.day + 1 }
  else if d.month < 12 then { d with month := d.month + 1, day := 1 }
  else ⟨d.year + 1, 1, 1⟩

/-- The preceding day. -/
def previous (d : Date) : Date :=
  if 1 < d.day then { d with day := d.day - 1 }
  else if 1 < d.month then
    { d with month := d.month - 1, day := monthLength d.year (d.month - 1) }
  else ⟨d.year - 1, 12, 31⟩

/-- The day within its year, from 1. -/
def ordinal (d : Date) : Nat :=
  (List.range' 1 (d.month - 1)).foldl
    (fun days month => days + monthLength d.year month) d.day

/-- The number of days since 1970-01-01. -/
def dayNumber (d : Date) : Int :=
  let past := d.year - 1
  365 * past + past / 4 - past / 100 + past / 400 + d.ordinal - 719163

/-- The day of the week, Monday being 0. -/
def weekday (d : Date) : Nat :=
  ((d.dayNumber + 3) % 7).toNat

/-- The quarter of the year, from 1. -/
def quarter (d : Date) : Nat :=
  (d.month - 1) / 3 + 1

/-- The number of weeks in a year whose weeks belong to the year of their
Thursday. -/
def isoWeeks (year : Int) : Nat :=
  let first := (Date.mk year 1 1).weekday
  if first = 3 ∨ (first = 2 ∧ isLeapYear year) then 53 else 52

/-- The year and week of a date where weeks start on Monday and belong to the
year of their Thursday. -/
def isoWeek (d : Date) : Int × Nat :=
  let week := (d.ordinal + 9 - d.weekday) / 7
  if week = 0 then (d.year - 1, isoWeeks (d.year - 1))
  else if isoWeeks d.year < week then (d.year + 1, 1)
  else (d.year, week)

/-- The week of the year where weeks start on a given weekday and the days
before the first such day are week 0. -/
def weekFrom (start : Nat) (d : Date) : Nat :=
  (d.ordinal + 6 - (d.weekday + 7 - start) % 7) / 7

theorem monthLength_le (year : Int) (month : Nat) :
    monthLength year month ≤ 31 := by
  unfold monthLength
  split <;> (try split) <;> omega

theorem one_le_monthLength (year : Int) (month : Nat) :
    1 ≤ monthLength year month := by
  unfold monthLength
  split <;> (try split) <;> omega

example : (Date.mk 1970 1 1).dayNumber = 0 := by decide
example : (Date.mk 2024 2 29).next = ⟨2024, 3, 1⟩ := by decide
example : (Date.mk 2021 1 3).isoWeek = (2020, 53) := by decide

end Date

end Stencil
