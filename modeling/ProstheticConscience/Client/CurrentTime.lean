/-
Module: ProstheticConscience.Client.CurrentTime
Purpose: The tool that tells the current UTC time, and that its arithmetic is the calendar's.
Trusted boundary: the clock is a parameter
Main exports: GetCurrentTime.execute, daysToDate, marchDate, daysToDate_eq_marchDate,
  daysToDate_succ, current_time_is_right
-/
import ProstheticConscience.Client.ToolLoop
import ProstheticConscience.Library.Calendar

namespace ProstheticConscience.Client

/-! ### The tool -/

/-- Days since 1970-01-01 to a date. The algorithm counts years from the first of March, so that a
leap day is the last day of its year, in eras of four hundred years. -/
def daysToDate (daysSinceEpoch : Nat) : Date :=
  let z := daysSinceEpoch + 719468
  let era := z / 146097
  let doe := z - era * 146097
  let yoe := (doe - doe / 1460 + doe / 36524 - doe / 146096) / 365
  let y := yoe + era * 400
  let doy := doe - (365 * yoe + yoe / 4 - yoe / 100)
  let mp := (5 * doy + 2) / 153
  let d := doy - (153 * mp + 2) / 5 + 1
  let m := if mp < 10 then mp + 3 else mp - 9
  let y := if m ≤ 2 then y + 1 else y
  ⟨y, m, d⟩

/-- `{n:0width}`. -/
def zeroPadded (width n : Nat) : String :=
  String.ofList (List.replicate (width - (toString n).length) '0') ++ toString n

/-- The text of a date and a time of day. -/
def utcText (date : Date) (hours minutes seconds : Nat) : String :=
  zeroPadded 4 date.year ++ "-" ++ zeroPadded 2 date.month ++ "-" ++ zeroPadded 2 date.day ++ "T" ++
    zeroPadded 2 hours ++ ":" ++ zeroPadded 2 minutes ++ ":" ++ zeroPadded 2 seconds ++ "Z"

/-- The tool at a clock that shows `now` seconds since the epoch; before the epoch it reports the
epoch. -/
def GetCurrentTime.execute (now : Int) (_arguments : Value) : Except ToolError String :=
  let secs := now.toNat
  let days := secs / 86400
  let timeSecs := secs % 86400
  let hours := timeSecs / 3600
  let minutes := timeSecs % 3600 / 60
  let seconds := timeSecs % 60
  .ok (utcText (daysToDate days) hours minutes seconds)

/-! ### Years from March

`yearStart y` is the day on which the March-based year `y` starts. -/

def yearStart (y : Nat) : Nat :=
  365 * y + y / 4 - y / 100 + y / 400

/-- The leap day of the March-based year is the one of the civil year in which it ends. -/
def yearLength (y : Nat) : Nat :=
  if isLeap (y + 1) then 366 else 365

/-- A year starts where the one before ends. -/
theorem yearStart_succ (y : Nat) : yearStart (y + 1) = yearStart y + yearLength y := by
  unfold yearLength isLeap
  by_cases four : (y + 1) % 4 = 0 <;> by_cases hundred : (y + 1) % 100 = 0 <;>
    by_cases quarter : (y + 1) % 400 = 0 <;>
    simp only [four, hundred, quarter, decide_true, decide_false, ne_eq, not_true_eq_false,
      not_false_eq_true, Bool.or_true, Bool.or_false, Bool.and_self, Bool.and_false,
      Bool.false_and, if_true, if_false, Bool.false_eq_true] <;>
    unfold yearStart <;> omega

/-- Every day lies in a year. -/
theorem exists_year (z : Nat) : ∃ y u, z = yearStart y + u ∧ u < yearLength y := by
  induction z with
  | zero => exact ⟨0, 0, rfl, by decide⟩
  | succ z ih =>
    obtain ⟨y, u, rfl, within⟩ := ih
    by_cases room : u + 1 < yearLength y
    · exact ⟨y, u + 1, rfl, room⟩
    · refine ⟨y + 1, 0, ?_, ?_⟩
      · rw [yearStart_succ]
        omega
      · unfold yearLength
        split <;> decide

/-! ### The algorithm in terms of years from March

The source divides by the lengths of eras of 400 years. Division with corrections finds the year in
the era, because the corrections cancel exactly the leap days before. -/

/-- The month and day of the `u`-th day of a year that starts in March. -/
def monthDay (u : Nat) : Nat × Nat :=
  let mp := (5 * u + 2) / 153
  (if mp < 10 then mp + 3 else mp - 9, u - (153 * mp + 2) / 5 + 1)

/-- The civil date of the `u`-th day of the March-based year `y`. -/
def marchDate (y u : Nat) : Date :=
  ⟨if (monthDay u).1 ≤ 2 then y + 1 else y, (monthDay u).1, (monthDay u).2⟩

/-- The month of a date depends on the position in the year only. -/
@[simp] theorem marchDate_month (y u : Nat) : (marchDate y u).month = (monthDay u).1 := rfl

/-- The day of a date depends on the position in the year only. -/
@[simp] theorem marchDate_day (y u : Nat) : (marchDate y u).day = (monthDay u).2 := rfl

/-- A year of an era splits into centuries, quadrennia and years; a leap day ends a quadrennium,
and ends a century only with the last one. -/
theorem yearOfEra_eq {c q s u : Nat} (hc : c < 4) (hq : q < 25) (hs : s < 4) (hu : u < 366)
    (leap : u = 365 → s = 3 ∧ (q = 24 → c = 3)) :
    let doe := 36524 * c + 1461 * q + 365 * s + u
    (doe - doe / 1460 + doe / 36524 - doe / 146096) / 365 = 100 * c + 4 * q + s := by
  intro doe
  have century : doe / 36524 = c ∨ doe / 36524 = 4 ∧ doe = 146096 := by omega
  have last : doe / 146096 = if doe = 146096 then 1 else 0 := by split <;> omega
  have quadrennium : doe / 1460 = 25 * c + q ∨ doe / 1460 = 25 * c + q + 1 ∧ s = 3 := by omega
  rw [last]
  split
  · omega
  · rcases century with century | century
    · rcases quadrennium with quadrennium | quadrennium
      · rw [century, quadrennium]
        omega
      · rw [century, quadrennium.1]
        omega
    · omega

/-- A year, seen as a century, a leap cycle and a year in it, has its last day only where the
calendar has a leap day. -/
theorem leapDay_position {e c q s u : Nat} (hc : c < 4) (hs : s < 4)
    (within : u < yearLength (400 * e + 100 * c + 4 * q + s)) :
    u < 366 ∧ (u = 365 → s = 3 ∧ (q = 24 → c = 3)) := by
  unfold yearLength isLeap at within
  split at within
  · next leap =>
    simp only [ne_eq, Bool.and_eq_true, decide_eq_true_eq, Bool.or_eq_true] at leap
    omega
  · omega

/-- The computation by eras finds the year and the position in it, for every day. -/
theorem daysToDate_eq_marchDate {days y u : Nat} (year : days + 719468 = yearStart y + u)
    (within : u < yearLength y) : daysToDate days = marchDate y u := by
  obtain ⟨e, c, q, s, rfl, hc, hq, hs⟩ :
      ∃ e c q s, y = 400 * e + 100 * c + 4 * q + s ∧ c < 4 ∧ q < 25 ∧ s < 4 :=
    ⟨y / 400, y % 400 / 100, y % 100 / 4, y % 4, by omega, by omega, by omega, by omega⟩
  obtain ⟨hu, leap⟩ := leapDay_position hc hs within
  have start : yearStart (400 * e + 100 * c + 4 * q + s) =
      146097 * e + (36524 * c + 1461 * q + 365 * s) := by
    unfold yearStart
    omega
  have era : (days + 719468) / 146097 = e := by omega
  have doe : days + 719468 - e * 146097 = 36524 * c + 1461 * q + 365 * s + u := by omega
  have doy : 36524 * c + 1461 * q + 365 * s + u -
      (365 * (100 * c + 4 * q + s) + (100 * c + 4 * q + s) / 4 - (100 * c + 4 * q + s) / 100) =
        u := by
    have quadrennia : (100 * c + 4 * q + s) / 4 = 25 * c + q := by omega
    have centuries : (100 * c + 4 * q + s) / 100 = c := by omega
    omega
  have years : 100 * c + 4 * q + s + e * 400 = 400 * e + 100 * c + 4 * q + s := by omega
  unfold daysToDate marchDate monthDay
  simp only [era, doe, yearOfEra_eq hc hq hs hu leap, doy, years]

/-! ### One day on

The next number is the next day: within a year by the table of months, at its end by the start of
the next. -/

/-- The months of a year from March: a day is followed by the next of its month, by the first of
the next month, or by the first of January. -/
theorem monthDay_succ : ∀ leap : Bool, ∀ u < 365, u + 1 < (if leap then 366 else 365) →
    (monthDay u).2 < monthLength leap (monthDay u).1 ∧
        monthDay (u + 1) = ((monthDay u).1, (monthDay u).2 + 1) ∨
      ¬ (monthDay u).2 < monthLength leap (monthDay u).1 ∧
        ((monthDay u).1 < 12 ∧ (monthDay u).1 ≠ 2 ∧ monthDay (u + 1) = ((monthDay u).1 + 1, 1) ∨
          (monthDay u).1 = 12 ∧ monthDay (u + 1) = (1, 1)) := by
  intro leap
  cases leap <;> decide +kernel

/-- The last position of a year, counted from March, is the last day of February. -/
theorem monthDay_last (leap : Bool) :
    (monthDay (if leap then 365 else 364)).1 = 2 ∧
      (monthDay (if leap then 365 else 364)).2 = monthLength leap 2 := by
  cases leap <;> decide

/-- A month before March belongs to the civil year in which the March-based year ends, which is the
one whose leap day matters. -/
theorem monthLength_marchDate (y u : Nat) :
    monthLength (isLeap (marchDate y u).year) (marchDate y u).month =
      monthLength (isLeap (y + 1)) (monthDay u).1 := by
  by_cases february : (monthDay u).1 = 2
  · simp only [marchDate, february, Nat.le_refl, if_true]
  · exact monthLength_of_ne february _ _

/-- Within a year the next position is the next day. -/
theorem marchDate_succ {y u : Nat} (within : u + 1 < yearLength y) :
    marchDate y (u + 1) = (marchDate y u).next := by
  have short : u < 365 := by
    unfold yearLength at within
    split at within <;> omega
  unfold Date.next
  rw [monthLength_marchDate, marchDate_day, marchDate_month]
  obtain ⟨sameMonth, after⟩ | ⟨full, ⟨notLast, notFebruary, after⟩ | ⟨december, after⟩⟩ :=
    monthDay_succ (isLeap (y + 1)) u short within
  · rw [if_pos sameMonth]
    simp only [marchDate, after]
  · rw [if_neg full, if_pos notLast]
    have sameYear : (monthDay u).1 + 1 ≤ 2 ↔ (monthDay u).1 ≤ 2 := by omega
    simp only [marchDate, after, sameYear]
  · rw [if_neg full, if_neg (by rw [december]; decide)]
    simp only [marchDate, after, december, Nat.reduceLeDiff, if_true, if_false]

/-- The first position of a year is the day after the last one of the year before. -/
theorem marchDate_year_end (y : Nat) :
    marchDate (y + 1) 0 = (marchDate y (yearLength y - 1)).next := by
  have last : yearLength y - 1 = if isLeap (y + 1) then 365 else 364 := by
    unfold yearLength
    split <;> rfl
  obtain ⟨february, day⟩ := monthDay_last (isLeap (y + 1))
  unfold Date.next
  rw [monthLength_marchDate, last, if_neg, if_pos]
  · simp only [marchDate, february]
    rfl
  · rw [marchDate_month, february]
    decide
  · rw [february, marchDate_day, day]
    exact Nat.lt_irrefl _

/-- The next number of days is the next day of the calendar: the step of the count. -/
theorem daysToDate_succ (days : Nat) : daysToDate (days + 1) = (daysToDate days).next := by
  obtain ⟨y, u, year, within⟩ := exists_year (days + 719468)
  rw [daysToDate_eq_marchDate year within]
  by_cases room : u + 1 < yearLength y
  · rw [daysToDate_eq_marchDate (y := y) (u := u + 1) (by omega) room, marchDate_succ room]
  · have last : u = yearLength y - 1 := by omega
    have nextYear : days + 1 + 719468 = yearStart (y + 1) + 0 := by
      rw [yearStart_succ]
      omega
    have nonempty : 0 < yearLength (y + 1) := by
      unfold yearLength
      split <;> decide
    rw [daysToDate_eq_marchDate nextYear nonempty, marchDate_year_end, last]

/-! ### The time told -/

def epoch : Date :=
  ⟨1970, 1, 1⟩

/-- The closed computation is the count of days from the epoch, by induction on the days. -/
theorem daysToDate_eq_iterate (days : Nat) : daysToDate days = Date.next^[days] epoch := by
  induction days with
  | zero => decide
  | succ days ih => rw [daysToDate_succ, ih, Function.iterate_succ_apply']

/-- The epoch is a day of the calendar. -/
theorem epoch_valid : epoch.Valid :=
  ⟨by decide, by decide, by decide, by decide⟩

/-- Hours, minutes and seconds are read back from the seconds of a day. -/
theorem timeOfDay_read {hours minutes seconds : Nat} (minute : minutes < 60)
    (second : seconds < 60) :
    (hours * 3600 + minutes * 60 + seconds) / 3600 = hours ∧
      (hours * 3600 + minutes * 60 + seconds) % 3600 / 60 = minutes ∧
        (hours * 3600 + minutes * 60 + seconds) % 60 = seconds := by
  refine ⟨by omega, ?_, by omega⟩
  have rest : (hours * 3600 + minutes * 60 + seconds) % 3600 = minutes * 60 + seconds := by omega
  rw [rest]
  omega

/-- Days and seconds are read back from an instant. -/
theorem instant_split {days time : Nat} (within : time < 86400) :
    (days * 86400 + time) / 86400 = days ∧ (days * 86400 + time) % 86400 = time := by
  omega

/-- At every instant from the epoch on the tool tells the day that the calendar counts to, and the
time of that day to the second. -/
theorem current_time_is_right (days hours minutes seconds : Nat) (hour : hours < 24)
    (minute : minutes < 60) (second : seconds < 60) (arguments : Value) :
    (Date.next^[days] epoch).Valid ∧
      GetCurrentTime.execute
          ((days * 86400 + (hours * 3600 + minutes * 60 + seconds) : Nat) : Int) arguments =
        .ok (utcText (Date.next^[days] epoch) hours minutes seconds) := by
  refine ⟨Date.iterate_next_valid epoch_valid days, ?_⟩
  obtain ⟨hoursRead, minutesRead, secondsRead⟩ := @timeOfDay_read hours _ _ minute second
  have within : hours * 3600 + minutes * 60 + seconds < 86400 := by omega
  obtain ⟨day, time⟩ := @instant_split days _ within
  unfold GetCurrentTime.execute
  simp only [Int.toNat_natCast, day, time, hoursRead, minutesRead, secondsRead,
    daysToDate_eq_iterate]

/-- An instant on the leap day of a year that centuries do not skip. -/
theorem leap_day_told :
    ((12 < 24 ∧ 34 < 60 ∧ 56 < 60) ∧ Date.next^[11016] epoch = ⟨2000, 2, 29⟩) ∧
      (Date.next^[11016] epoch).Valid ∧
        GetCurrentTime.execute ((11016 * 86400 + (12 * 3600 + 34 * 60 + 56) : Nat) : Int) .null =
          .ok (utcText (Date.next^[11016] epoch) 12 34 56) :=
  ⟨⟨by decide, by rw [← daysToDate_eq_iterate]; decide⟩,
    current_time_is_right 11016 12 34 56 (by decide) (by decide) (by decide) .null⟩

end ProstheticConscience.Client
