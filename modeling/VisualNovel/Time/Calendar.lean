/-
  VisualNovel.Time.Calendar

  Dates of the Gregorian calendar, extended to years before 1 (year 0 is the one
  before year 1) and limited to a fixed range of years. A `Date` is valid by its
  type. `next?` and `previous?` step over one day and fail only at the two ends
  of the range.
-/

namespace VisualNovel.Time

/-- Every fourth year, but of the full centuries only every fourth. -/
def isLeapYear (year : Int) : Bool :=
  year % 4 == 0 && (year % 100 != 0 || year % 400 == 0)

/-- Length of a month, numbered from 1. -/
def daysInMonth (year : Int) (month : Nat) : Nat :=
  match month with
  | 2 => if isLeapYear year then 29 else 28
  | 4 | 6 | 9 | 11 => 30
  | _ => 31

theorem daysInMonth_le (year : Int) (month : Nat) : daysInMonth year month ≤ 31 := by
  unfold daysInMonth
  repeat' split
  all_goals omega

def firstYear : Int := -262143

def lastYear : Int := 262142

/-- A day that exists, in a year of the range. -/
abbrev IsDate (year : Int) (month day : Nat) : Prop :=
  firstYear ≤ year ∧ year ≤ lastYear ∧ 1 ≤ month ∧ month ≤ 12 ∧ 1 ≤ day ∧ day ≤ daysInMonth year month

/-- A day of the calendar. -/
structure Date where
  year : Int
  month : Nat
  day : Nat
  isDate : IsDate year month day
  deriving DecidableEq

namespace Date

/-- The date with a year, month and day, if there is one. -/
def of? (year : Int) (month day : Nat) : Option Date :=
  if h : IsDate year month day then some ⟨year, month, day, h⟩ else none

/-- The day after. -/
def next? (d : Date) : Option Date :=
  if d.day < daysInMonth d.year d.month then of? d.year d.month (d.day + 1)
  else if d.month < 12 then of? d.year (d.month + 1) 1
  else of? (d.year + 1) 1 1

/-- The day before. -/
def previous? (d : Date) : Option Date :=
  if 1 < d.day then of? d.year d.month (d.day - 1)
  else if 1 < d.month then of? d.year (d.month - 1) (daysInMonth d.year (d.month - 1))
  else of? (d.year - 1) 12 31

@[simp] theorem of?_self (d : Date) : of? d.year d.month d.day = some d :=
  dif_pos d.isDate

/--
The date a number of days after the first day of 1970, by whole cycles of 400 years (146097 days)
from a first of March.
-/
def ofDayNumber? (days : Int) : Option Date :=
  -- 719468 days lie between the first of March of year 0 and the first day of 1970.
  let z := days + 719468
  let era := z / 146097
  let dayOfEra := z % 146097
  -- A year from March on ends with its leap day; 1460, 36524 and 146096 days stand before the one
  -- that closes a cycle of 4, 100 and 400 years.
  let yearOfEra := (dayOfEra - dayOfEra / 1460 + dayOfEra / 36524 - dayOfEra / 146096) / 365
  let dayOfYear := dayOfEra - (365 * yearOfEra + yearOfEra / 4 - yearOfEra / 100)
  -- Five months from March on, or from August on, have 153 days.
  let monthFromMarch := (5 * dayOfYear + 2) / 153
  let day := dayOfYear - (153 * monthFromMarch + 2) / 5 + 1
  let month := if monthFromMarch < 10 then monthFromMarch + 3 else monthFromMarch - 9
  let year := yearOfEra + era * 400 + (if month ≤ 2 then 1 else 0)
  of? year month.toNat day.toNat

end Date

end VisualNovel.Time
