import Mathlib.Tactic.Common

/-! The civil calendar in days since 1970-01-01. -/
namespace LiveRoute.Calendar

def isLeap (year : Int) : Bool := year % 4 == 0 && (year % 100 != 0 || year % 400 == 0)

def lastDayOfMonth (year month : Int) : Int :=
  if month = 2 then if isLeap year then 29 else 28
  else if month = 4 ∨ month = 6 ∨ month = 9 ∨ month = 11 then 30 else 31

/-- Years are counted from March, so that the leap day is the last of its year. -/
def sysDays (year month day : Int) : Int :=
  let shifted := if month ≤ 2 then year - 1 else year
  let dayOfYear := (153 * (if month ≤ 2 then month + 9 else month - 3) + 2) / 5 + day - 1
  shifted * 365 + shifted / 4 - shifted / 100 + shifted / 400 + dayOfYear - 719468

def yearOf (days : Int) : Int :=
  let shifted := days + 719468
  let dayOfEra := shifted % 146097
  let yearOfEra := (dayOfEra - dayOfEra / 1460 + dayOfEra / 36524 - dayOfEra / 146096) / 365
  let dayOfYear := dayOfEra - (365 * yearOfEra + yearOfEra / 4 - yearOfEra / 100)
  shifted / 146097 * 400 + yearOfEra + if 306 ≤ dayOfYear then 1 else 0

/-- Sunday is 0; the epoch was a Thursday. -/
def weekday (days : Int) : Int := (days + 4) % 7

theorem lastDayOfMonth_bounds (year month : Int) :
    28 ≤ lastDayOfMonth year month ∧ lastDayOfMonth year month ≤ 31 := by
  unfold lastDayOfMonth
  split
  · split <;> decide
  · split <;> decide

theorem sysDays_add : sysDays year month day = sysDays year month 1 + (day - 1) := by
  unfold sysDays
  dsimp only
  omega

end LiveRoute.Calendar
