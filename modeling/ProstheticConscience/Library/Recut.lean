/-
Module: ProstheticConscience.Library.Recut
Purpose: Streams whose elements are cut into pieces or joined again, and the accumulators that
  cannot tell one cutting from another.
Trusted boundary: none
Main exports: Cut, Recut, Recut.foldl_eq, Recut.eq_nil_iff
-/
import Mathlib.Logic.Relation

namespace ProstheticConscience

variable {α β : Type*}

/-- One element of a stream is replaced by pieces that may stand for it, in view of what the stream
holds before. -/
inductive Cut (mayStandFor : List α → α → List α → Prop) : List α → List α → Prop where
  | intro (before : List α) (element : α) (pieces after : List α)
      (allowed : mayStandFor before element pieces) :
      Cut mayStandFor (before ++ element :: after) (before ++ pieces ++ after)

/-- Streams that arise from one another by cutting elements and joining pieces. -/
def Recut (mayStandFor : List α → α → List α → Prop) : List α → List α → Prop :=
  Relation.EqvGen (Cut mayStandFor)

namespace Recut

variable {mayStandFor : List α → α → List α → Prop} {first second : List α}

theorem of_cut (cut : Cut mayStandFor first second) : Recut mayStandFor first second :=
  .rel first second cut

theorem of_eq (same : first = second) : Recut mayStandFor first second :=
  same ▸ .refl first

/-- What no cut changes is the same for all cuttings. -/
theorem invariant {γ : Type*} {read : List α → γ}
    (kept : ∀ {first second}, Cut mayStandFor first second → read first = read second)
    (recut : Recut mayStandFor first second) : read first = read second := by
  induction recut with
  | rel first second cut => exact kept cut
  | refl stream => rfl
  | symm first second _ ih => exact ih.symm
  | trans first second third _ _ ih later => exact ih.trans later

/-- An accumulator that takes in the pieces as it takes in the element ends up the same. -/
theorem foldl_eq {step : β → α → β} {start : β}
    (respects : ∀ before element pieces, mayStandFor before element pieces →
      pieces.foldl step (before.foldl step start) = step (before.foldl step start) element)
    (recut : Recut mayStandFor first second) :
    first.foldl step start = second.foldl step start := by
  apply recut.invariant
  intro first second cut
  cases cut with
  | intro before element pieces after allowed =>
      rw [List.foldl_append, List.foldl_append, List.foldl_append, List.foldl_cons,
        respects before element pieces allowed]

/-- Where an element is never cut into nothing, only the empty stream is empty. -/
theorem eq_nil_iff (some_piece : ∀ before element, ¬mayStandFor before element [])
    (recut : Recut mayStandFor first second) : first = [] ↔ second = [] := by
  have same : (first.isEmpty : Prop) = second.isEmpty := by
    apply recut.invariant
    intro first second cut
    cases cut with
    | intro before element pieces after allowed =>
        cases pieces with
        | nil => exact absurd allowed (some_piece before element)
        | cons piece rest => simp
  rw [← List.isEmpty_iff, ← List.isEmpty_iff, same]

end Recut

end ProstheticConscience
