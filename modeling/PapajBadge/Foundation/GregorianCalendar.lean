import Mathlib.Data.Nat.Basic
import Mathlib.Tactic.IntervalCases

/-!
# The Gregorian calendar

Month lengths with the leap-year rule, and the validity of a date and a time of
day given as numbers.
-/

namespace GregorianCalendar

/-- Every fourth year, except centuries that are not divisible by 400. -/
def isLeapYear (year : Nat) : Bool :=
  year % 4 = 0 && (year % 100 ≠ 0 || year % 400 = 0)

/-- The number of days of a month in a year; zero outside 1..12. -/
def daysInMonth (year month : Nat) : Nat :=
  match month with
  | 1 | 3 | 5 | 7 | 8 | 10 | 12 => 31
  | 4 | 6 | 9 | 11 => 30
  | 2 => if isLeapYear year then 29 else 28
  | _ => 0

/-- A day that exists. -/
def ValidDate (year month day : Nat) : Prop :=
  1 ≤ month ∧ month ≤ 12 ∧ 1 ≤ day ∧ day ≤ daysInMonth year month

/-- A time of day without leap seconds. -/
def ValidTime (hour minute second : Nat) : Prop :=
  hour < 24 ∧ minute < 60 ∧ second < 60

instance (year month day : Nat) : Decidable (ValidDate year month day) := by
  unfold ValidDate
  infer_instance

instance (hour minute second : Nat) : Decidable (ValidTime hour minute second) := by
  unfold ValidTime
  infer_instance

/-- Every month of the year has at least 28 days. -/
theorem daysInMonth_ge {month : Nat} (year : Nat) (hlow : 1 ≤ month) (hhigh : month ≤ 12) :
    28 ≤ daysInMonth year month := by
  have hfebruary : 28 ≤ if isLeapYear year then 29 else 28 := by
    split <;> omega
  interval_cases month <;> simp [daysInMonth, hfebruary]

end GregorianCalendar
