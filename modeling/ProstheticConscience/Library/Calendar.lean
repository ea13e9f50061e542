/-
Module: ProstheticConscience.Library.Calendar
Purpose: The Gregorian calendar: dates, the day after a date, and the date some days after another.
Trusted boundary: none
Main exports: Date, isLeap, monthLength, Date.next, Date.Valid, Date.iterate_next_valid
-/
import Mathlib.Logic.Function.Iterate
import Mathlib.Tactic.SplitIfs

namespace ProstheticConscience

/-- A date of the Gregorian calendar, with months and days counted from one. -/
structure Date where
  year : Nat
  month : Nat
  day : Nat
deriving DecidableEq, Repr

/-- Every fourth year is a leap year; of the centuries only every fourth. -/
def isLeap (year : Nat) : Bool :=
  year % 4 = 0 && (year % 100 ≠ 0 || year % 400 = 0)

def monthLength (leap : Bool) (month : Nat) : Nat :=
  if month = 2 then (if leap then 29 else 28)
  else if month = 4 ∨ month = 6 ∨ month = 9 ∨ month = 11 then 30
  else 31

/-- Every month has a first day. -/
theorem monthLength_pos (leap : Bool) (month : Nat) : 1 ≤ monthLength leap month := by
  unfold monthLength
  split_ifs <;> decide

/-- Only February depends on the year. -/
theorem monthLength_of_ne {month : Nat} (other : month ≠ 2) (leap leap' : Bool) :
    monthLength leap month = monthLength leap' month := by
  simp only [monthLength, if_neg other]

namespace Date

structure Valid (date : Date) : Prop where
  firstMonth : 1 ≤ date.month
  lastMonth : date.month ≤ 12
  firstDay : 1 ≤ date.day
  lastDay : date.day ≤ monthLength (isLeap date.year) date.month

/-- The day after. -/
def next (date : Date) : Date :=
  if date.day < monthLength (isLeap date.year) date.month then
    { date with day := date.day + 1 }
  else if date.month < 12 then { date with month := date.month + 1, day := 1 }
  else { year := date.year + 1, month := 1, day := 1 }

/-- The day after a day of the calendar is a day of the calendar. -/
theorem next_valid {date : Date} (valid : date.Valid) : date.next.Valid := by
  obtain ⟨firstMonth, lastMonth, firstDay, lastDay⟩ := valid
  unfold next
  split_ifs with sameMonth sameYear
  · exact ⟨firstMonth, lastMonth, Nat.le_succ_of_le firstDay, sameMonth⟩
  · exact ⟨Nat.le_succ_of_le firstMonth, sameYear, Nat.le_refl 1, monthLength_pos _ _⟩
  · exact ⟨Nat.le_refl 1, Nat.le_add_left 1 11, Nat.le_refl 1, monthLength_pos _ _⟩

/-- Counting days never leaves the calendar. -/
theorem iterate_next_valid {date : Date} (valid : date.Valid) (days : Nat) :
    (next^[days] date).Valid := by
  induction days with
  | zero => exact valid
  | succ days ih =>
    rw [Function.iterate_succ_apply']
    exact next_valid ih

end Date

end ProstheticConscience
