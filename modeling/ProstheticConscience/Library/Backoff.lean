/-
Module: ProstheticConscience.Library.Backoff
Purpose: Delays that double up to a cap.
Trusted boundary: none
Main exports: backoffDelay, backoffDelay_zero, backoffDelay_succ, backoffDelays,
  backoffDelays_succ
-/
import Mathlib.Algebra.Ring.Nat
import Mathlib.Data.List.Range

namespace ProstheticConscience

/-- The delay after `failures` attempts that failed one after the other. -/
def backoffDelay (initial cap failures : Nat) : Nat :=
  min (initial * 2 ^ failures) cap

variable {initial cap : Nat}

/-- The first delay is the initial one. -/
theorem backoffDelay_zero (room : initial ≤ cap) : backoffDelay initial cap 0 = initial := by
  rw [backoffDelay, pow_zero, Nat.mul_one, Nat.min_eq_left room]

/-- Each further delay is twice the one before, up to the cap: what a policy computes step by step
is the closed form. -/
theorem backoffDelay_succ (failures : Nat) :
    backoffDelay initial cap (failures + 1) = min (backoffDelay initial cap failures * 2) cap := by
  unfold backoffDelay
  rw [pow_succ, ← Nat.mul_assoc]
  omega

/-- The first `count` delays. -/
def backoffDelays (initial cap count : Nat) : List Nat :=
  (List.range count).map (backoffDelay initial cap)

/-- The delays grow at the end, by the next one. -/
theorem backoffDelays_succ (count : Nat) :
    backoffDelays initial cap (count + 1) =
      backoffDelays initial cap count ++ [backoffDelay initial cap count] := by
  rw [backoffDelays, List.range_succ, List.map_append]
  rfl

end ProstheticConscience
