/-
Module: ProstheticConscience.Library.Deadline
Purpose: A deadline that is set again by every refresh and that a clock tick removes once it has
  come.  The deadline is compared with the clock after the tick.
Trusted boundary: none
Main exports: Timer, Timer.next, Timer.Bounded, Timer.Awaits, Timer.Awaits.next,
  Timer.Awaits.present_iff
-/
import Mathlib.Data.Option.Basic
import Mathlib.Order.MinMax

/-- A clock and perhaps a deadline. -/
structure Timer where
  now : Nat
  deadline : Option Nat
deriving DecidableEq, Repr

namespace Timer

/-- What can happen to a deadline. -/
inductive Change where
  | kept
  | refreshed
  | left
  | ticked
deriving DecidableEq, Repr

/-- A refresh sets the deadline `ttl` ticks ahead; a tick drops a deadline that has come. -/
def next (ttl : Nat) (timer : Timer) : Change → Timer
  | .kept => timer
  | .refreshed => { timer with deadline := some (timer.now + ttl) }
  | .left => { timer with deadline := none }
  | .ticked =>
      { now := timer.now + 1
        deadline := timer.deadline.filter fun deadline => decide (timer.now + 1 < deadline) }

variable {ttl start : Nat} {timer : Timer}

/-- A deadline is at most `ttl` ticks ahead. -/
def Bounded (ttl : Nat) (timer : Timer) : Prop :=
  ∀ deadline, timer.deadline = some deadline → deadline ≤ timer.now + ttl

theorem Bounded.next (bounded : Bounded ttl timer) (change : Change) :
    Bounded ttl (timer.next ttl change) := by
  cases change with
  | kept => exact bounded
  | refreshed =>
      intro deadline present
      obtain rfl := Option.some.inj present
      exact le_refl _
  | left =>
      intro deadline present
      cases present
  | ticked =>
      intro deadline present
      have earlier := bounded deadline (Option.filter_eq_some_iff.mp present).1
      exact earlier.trans (Nat.add_le_add_right (Nat.le_succ _) ttl)

/-- After a tick a deadline lies ahead. -/
theorem now_lt_of_ticked {deadline : Nat}
    (present : (timer.next ttl .ticked).deadline = some deadline) :
    (timer.next ttl .ticked).now < deadline :=
  of_decide_eq_true (Option.filter_eq_some_iff.mp present).2

/-- The time at which a deadline set at `start` is over.  Without time to live that is the next
tick, since only ticks look. -/
def due (ttl start : Nat) : Nat :=
  max (start + ttl) (start + 1)

/-- The deadline set at `start` stands until it is due, and is gone from then on. -/
def Awaits (ttl start : Nat) (timer : Timer) : Prop :=
  (timer.deadline = some (start + ttl) ∧ start ≤ timer.now ∧ timer.now < due ttl start) ∨
    (timer.deadline = none ∧ due ttl start ≤ timer.now)

/-- A refresh starts the wait. -/
theorem awaits_refreshed : Awaits ttl timer.now (timer.next ttl .refreshed) :=
  .inl ⟨rfl, le_refl _, lt_max_iff.mpr (.inr (Nat.lt_succ_self _))⟩

theorem Awaits.ticked (awaits : Awaits ttl start timer) :
    Awaits ttl start (timer.next ttl .ticked) := by
  have clock : (timer.next ttl .ticked).now = timer.now + 1 := rfl
  rcases awaits with ⟨present, started, notDue⟩ | ⟨absent, past⟩
  · by_cases ahead : timer.now + 1 < start + ttl
    · left
      refine ⟨?_, Nat.le_succ_of_le started, lt_max_iff.mpr (.inl ahead)⟩
      simp [Timer.next, present, Option.filter_some, ahead]
    · right
      constructor
      · simp [Timer.next, present, Option.filter_some, ahead]
      · rw [clock, due]
        exact max_le (Nat.le_of_not_lt ahead) (Nat.succ_le_succ started)
  · right
    constructor
    · simp [Timer.next, absent]
    · exact Nat.le_succ_of_le past

/-- The wait goes on unless the deadline is set again or given up. -/
theorem Awaits.next (awaits : Awaits ttl start timer) {change : Change}
    (notAgain : change ≠ .refreshed) (stays : change = .left → timer.deadline = none) :
    Awaits ttl start (timer.next ttl change) := by
  cases change with
  | kept => exact awaits
  | refreshed => exact absurd rfl notAgain
  | left =>
      have same : timer.next ttl .left = timer := by
        rw [Timer.next, ← stays rfl]
      rw [same]
      exact awaits
  | ticked => exact awaits.ticked

/-- The deadline is there exactly before it is due. -/
theorem Awaits.present_iff (awaits : Awaits ttl start timer) :
    timer.deadline.isSome = true ↔ timer.now < due ttl start := by
  rcases awaits with ⟨present, _, notDue⟩ | ⟨absent, past⟩
  · simp [present, notDue]
  · simp [absent, Nat.not_lt.mpr past]

end Timer
