/-
Module: ProstheticConscience.Library.BackwardSimulation
Purpose: Refinement of labelled transition systems by backward simulation: the abstract run is
  chosen from its end, so that an abstract step may depend on what the concrete run does later.
Trusted boundary: none
Main exports: TransitionSystem.Execution.append_path, TransitionSystem.BackwardSimulation,
  TransitionSystem.BackwardSimulation.refines
-/
import ProstheticConscience.Library.TransitionSystem

namespace TransitionSystem

variable {σ τ ℓ κ β : Type*} {M : TransitionSystem σ ℓ} {N : TransitionSystem τ κ}

/-- A run goes on along a path. -/
theorem Execution.append_path {trace path : List ℓ} {s s' : σ} (run : M.Execution trace s)
    (onward : M.Path s path s') : M.Execution (trace ++ path) s' := by
  induction onward generalizing trace with
  | done s => simpa using run
  | @step s s' s'' label path step _ ih => simpa using ih (run.step step)

/-- `R` relates a concrete state to the abstract states it may stand for.  Every one of them is
initial if the concrete state is; and whatever a concrete step leads to is led to, with the same
shown, from what the state before may stand for. -/
structure BackwardSimulation (M : TransitionSystem σ ℓ) (N : TransitionSystem τ κ)
    (shown : ℓ → Option β) (shown' : κ → Option β) (R : σ → τ → Prop) : Prop where
  start : ∀ s t, M.init s → R s t → N.init t
  steps : ∀ trace s label s' t', M.Execution trace s → M.step s label s' → R s' t' →
    ∃ t path, R s t ∧ N.Path t path t' ∧ path.filterMap shown' = (shown label).toList

/-- Every run of the concrete system is a run of the abstract one that shows the same, to whichever
abstract state its last state may stand for. -/
theorem BackwardSimulation.refines {shown : ℓ → Option β} {shown' : κ → Option β}
    {R : σ → τ → Prop} (simulation : BackwardSimulation M N shown shown' R) {trace : List ℓ}
    {s : σ} (run : M.Execution trace s) {t : τ} (related : R s t) :
    ∃ trace', N.Execution trace' t ∧ trace'.filterMap shown' = trace.filterMap shown := by
  induction run generalizing t with
  | start initial => exact ⟨[], .start (simulation.start _ _ initial related), rfl⟩
  | @step trace s s' label before step ih =>
      obtain ⟨u, path, earlier, onward, same⟩ :=
        simulation.steps _ _ _ _ _ before step related
      obtain ⟨trace', run', shownEq⟩ := ih earlier
      refine ⟨trace' ++ path, run'.append_path onward, ?_⟩
      rw [List.filterMap_append, List.filterMap_append, shownEq, same]
      cases shownNow : shown label <;> simp [shownNow]

end TransitionSystem
