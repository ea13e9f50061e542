/-
Module: ProstheticConscience.Library.TransitionSystem
Purpose: Labelled transition systems, their executions, and the induction rules by which a fact
  about one step becomes a fact about every execution.
Trusted boundary: none
Main exports: TransitionSystem, TransitionSystem.Execution, TransitionSystem.Execution.invariant,
  TransitionSystem.guarded, TransitionSystem.startedAt,
  TransitionSystem.Execution.reachable_invariant,
  TransitionSystem.Execution.exists_of_append, TransitionSystem.Path,
  TransitionSystem.recorded, TransitionSystem.outputs, TransitionSystem.ofPartial,
  TransitionSystem.runPartial, TransitionSystem.takeSteps
-/
import Mathlib.Data.List.Induction

/-- A labelled transition system: initial states and labelled steps. -/
structure TransitionSystem (σ : Type*) (ℓ : Type*) where
  /-- The states a run may start in. -/
  init : σ → Prop
  /-- One labelled step. -/
  step : σ → ℓ → σ → Prop

namespace TransitionSystem

variable {σ ℓ : Type*}

/-- `M.Execution trace s`: some run from an initial state, labelled `trace` in order, ends in
`s`. -/
inductive Execution (M : TransitionSystem σ ℓ) : List ℓ → σ → Prop where
  | start {s : σ} : M.init s → Execution M [] s
  | step {trace : List ℓ} {s s' : σ} {label : ℓ} :
      Execution M trace s → M.step s label s' → Execution M (trace ++ [label]) s'

/-- A state that some run reaches. -/
def Reachable (M : TransitionSystem σ ℓ) (s : σ) : Prop :=
  ∃ trace, M.Execution trace s

/-- The part of the system whose steps all satisfy a condition on the state before the step and
the label. -/
def guarded (M : TransitionSystem σ ℓ) (condition : σ → ℓ → Prop) : TransitionSystem σ ℓ where
  init := M.init
  step s label s' := M.step s label s' ∧ condition s label

/-- The same system, started in one given state. -/
def startedAt (M : TransitionSystem σ ℓ) (start : σ) : TransitionSystem σ ℓ where
  init s := s = start
  step := M.step

/-- `M.Path s trace s'`: steps labelled `trace` lead from `s` to `s'`. -/
inductive Path (M : TransitionSystem σ ℓ) : σ → List ℓ → σ → Prop where
  | done (s : σ) : Path M s [] s
  | step {s s' s'' : σ} {label : ℓ} {trace : List ℓ} :
      M.step s label s' → Path M s' trace s'' → Path M s (label :: trace) s''

variable {M : TransitionSystem σ ℓ}

/-- A fact about trace and state that holds at the start and is kept by every step holds of every
execution.  The prefix is available as an execution, so that earlier invariants can be used. -/
theorem Execution.invariant {I : List ℓ → σ → Prop}
    (start : ∀ s, M.init s → I [] s)
    (kept : ∀ trace s label s', M.Execution trace s → I trace s → M.step s label s' →
      I (trace ++ [label]) s')
    {trace : List ℓ} {s : σ} (run : M.Execution trace s) : I trace s := by
  induction run with
  | start initial => exact start _ initial
  | step before step ih => exact kept _ _ _ _ before ih step

/-- The same rule for a fact about the state alone. -/
theorem Execution.reachable_invariant {I : σ → Prop}
    (start : ∀ s, M.init s → I s)
    (kept : ∀ s label s', I s → M.step s label s' → I s')
    {trace : List ℓ} {s : σ} (run : M.Execution trace s) : I s :=
  run.invariant (I := fun _ s => I s) start fun _ s label s' _ inv step =>
    kept s label s' inv step

/-- A guarded execution is an execution. -/
theorem Execution.of_guarded {condition : σ → ℓ → Prop} {trace : List ℓ} {s : σ}
    (run : (M.guarded condition).Execution trace s) : M.Execution trace s := by
  induction run with
  | start initial => exact .start initial
  | step _ step ih => exact .step ih step.1

/-- The last step of a run. -/
theorem Execution.exists_of_concat {trace : List ℓ} {label : ℓ} {s : σ}
    (run : M.Execution (trace ++ [label]) s) :
    ∃ before, M.Execution trace before ∧ M.step before label s := by
  generalize whole : trace ++ [label] = labels at run
  cases run with
  | start initial => simp at whole
  | @step earlier before after last run step =>
      obtain ⟨rfl, lastEq⟩ := List.append_inj' whole rfl
      obtain rfl := List.singleton_inj.mp lastEq
      exact ⟨before, run, step⟩

/-- A run in two parts: the second starts where the first ended. -/
theorem Execution.exists_of_append {first second : List ℓ} {s : σ}
    (run : M.Execution (first ++ second) s) :
    ∃ middle, M.Execution first middle ∧ (M.startedAt middle).Execution second s := by
  induction second using List.reverseRecOn generalizing s with
  | nil =>
      rw [List.append_nil] at run
      exact ⟨s, run, .start rfl⟩
  | append_singleton second label ih =>
      rw [← List.append_assoc] at run
      obtain ⟨before, run, step⟩ := run.exists_of_concat
      obtain ⟨middle, earlier, later⟩ := ih run
      exact ⟨middle, earlier, .step later step⟩

/-- A function that picks a step for every label runs any list of labels. -/
theorem Execution.foldl {s : σ} (initial : M.init s) {next : σ → ℓ → σ}
    (steps : ∀ s label, M.step s label (next s label)) (labels : List ℓ) :
    M.Execution labels (labels.foldl next s) := by
  induction labels using List.reverseRecOn with
  | nil => exact .start initial
  | append_singleton labels label ih =>
      rw [List.foldl_append]
      exact .step ih (steps _ label)

/-- When a function gives the only step for every label, a run ends where the function leads. -/
theorem Execution.eq_foldl {start : σ} {next : σ → ℓ → σ} (initial : ∀ s, M.init s → s = start)
    (steps : ∀ s label s', M.step s label s' → s' = next s label) {trace : List ℓ} {s : σ}
    (run : M.Execution trace s) : s = trace.foldl next start := by
  induction run with
  | start isInit => exact initial _ isInit
  | step _ step ih =>
      rw [List.foldl_append, ← ih]
      exact steps _ _ _ step

/-! ### Runs with their states

A run that records the states around every step, for statements about what happened in it. -/

/-- A step: the states it leads from and to, and its label. -/
structure Step (σ : Type*) (ℓ : Type*) where
  before : σ
  label : ℓ
  after : σ

/-- The system whose labels are the whole steps. -/
def recorded (M : TransitionSystem σ ℓ) : TransitionSystem σ (Step σ ℓ) where
  init := M.init
  step s taken s' := taken.before = s ∧ taken.after = s' ∧ M.step s taken.label s'

/-- Every recorded step is a step of the system. -/
theorem Execution.step_of_mem {steps : List (Step σ ℓ)} {s : σ}
    (run : M.recorded.Execution steps s) {taken : Step σ ℓ} (member : taken ∈ steps) :
    M.step taken.before taken.label taken.after := by
  induction run with
  | start _ => cases member
  | step _ last ih =>
      rcases List.mem_append.mp member with earlier | now
      · exact ih earlier
      · obtain rfl := List.mem_singleton.mp now
        obtain ⟨rfl, rfl, step⟩ := last
        exact step

/-- A fact about the state that every step keeps holds before each recorded step, and at the end. -/
theorem Execution.invariant_of_mem {I : σ → Prop} (start : ∀ s, M.init s → I s)
    (kept : ∀ s label s', I s → M.step s label s' → I s') {steps : List (Step σ ℓ)} {s : σ}
    (run : M.recorded.Execution steps s) : I s ∧ ∀ taken ∈ steps, I taken.before := by
  induction run with
  | start initial => exact ⟨start _ initial, fun _ member => absurd member List.not_mem_nil⟩
  | @step earlier before after taken _ last ih =>
      obtain ⟨rfl, rfl, step⟩ := last
      refine ⟨kept _ _ _ ih.1 step, fun other member => ?_⟩
      rcases List.mem_append.mp member with earlier | now
      · exact ih.2 other earlier
      · rw [List.mem_singleton.mp now]
        exact ih.1

/-! ### Outputs of a function of steps -/

section Outputs

variable {β : Type*}

/-- What the steps of a run put out, one after the other. -/
def outputs (next : σ → ℓ → σ) (output : σ → ℓ → Option β) : σ → List ℓ → List β
  | _, [] => []
  | s, label :: labels => (output s label).toList ++ outputs next output (next s label) labels

variable {next : σ → ℓ → σ} {output : σ → ℓ → Option β}

theorem outputs_concat (s : σ) (labels : List ℓ) (label : ℓ) :
    outputs next output s (labels ++ [label]) =
      outputs next output s labels ++ (output (labels.foldl next s) label).toList := by
  induction labels generalizing s with
  | nil => exact List.append_nil _
  | cons first rest ih =>
      rw [List.cons_append, outputs, ih, outputs, List.append_assoc]
      rfl

/-- A simulation that keeps the outputs of steps keeps the outputs of runs. -/
theorem outputs_simulation {τ κ : Type*} {next' : τ → κ → τ} {output' : τ → κ → Option β}
    {state : σ → τ} {action : ℓ → κ}
    (steps : ∀ s label, state (next s label) = next' (state s) (action label))
    (same : ∀ s label, output s label = output' (state s) (action label)) (s : σ)
    (labels : List ℓ) :
    outputs next output s labels = outputs next' output' (state s) (labels.map action) := by
  induction labels generalizing s with
  | nil => rfl
  | cons label rest ih => rw [outputs, ih, steps, same, List.map_cons, outputs]

end Outputs

/-! ### Partial functions of steps -/

/-- A list of labels that a partial function of steps runs through. -/
theorem Execution.foldlM {next : σ → ℓ → Option σ}
    (steps : ∀ s label s', next s label = some s' → M.step s label s') {s last : σ}
    (initial : M.init s) {labels : List ℓ} (ran : labels.foldlM next s = some last) :
    M.Execution labels last := by
  induction labels using List.reverseRecOn generalizing last with
  | nil =>
      obtain rfl := Option.some.inj ran
      exact .start initial
  | append_singleton labels label ih =>
      rw [List.foldlM_append] at ran
      obtain ⟨before, earlier, now⟩ := Option.bind_eq_some_iff.mp ran
      have taken : next before label = some last := by simpa using now
      exact .step (ih earlier) (steps _ label _ taken)

/-- The steps of a partial function, as far as it goes. -/
def takeSteps (next : σ → ℓ → Option σ) : σ → List ℓ → List (Step σ ℓ)
  | _, [] => []
  | s, label :: labels =>
      match next s label with
      | none => []
      | some s' => { before := s, label, after := s' } :: takeSteps next s' labels

theorem Execution.append_takeSteps {next : σ → ℓ → Option σ}
    (steps : ∀ s label s', next s label = some s' → M.step s label s') {labels : List ℓ}
    {earlier : List (Step σ ℓ)} {s last : σ} (run : M.recorded.Execution earlier s)
    (ran : labels.foldlM next s = some last) :
    M.recorded.Execution (earlier ++ takeSteps next s labels) last := by
  induction labels generalizing earlier s with
  | nil =>
      obtain rfl := Option.some.inj ran
      rwa [takeSteps, List.append_nil]
  | cons label labels ih =>
      rw [List.foldlM_cons] at ran
      obtain ⟨s', taken, later⟩ := Option.bind_eq_some_iff.mp ran
      have next : M.recorded.Execution (earlier ++ [{ before := s, label, after := s' }]) s' :=
        run.step ⟨rfl, rfl, steps s label s' taken⟩
      have extended := ih next later
      rw [takeSteps, taken]
      rwa [List.append_assoc] at extended

/-- The steps that a partial function takes are a recorded run. -/
theorem Execution.takeSteps {next : σ → ℓ → Option σ}
    (steps : ∀ s label s', next s label = some s' → M.step s label s') {s last : σ}
    (initial : M.init s) {labels : List ℓ} (ran : labels.foldlM next s = some last) :
    M.recorded.Execution (takeSteps next s labels) last :=
  .append_takeSteps steps (.start initial) ran

/-! ### Systems of a partial step function

A step function that refuses the actions that are not possible, and answers the others. -/

section OfPartial

variable {α β : Type*}

/-- The system whose steps are the possible actions with their answers. -/
def ofPartial (init : σ → Prop) (next : σ → α → Option (σ × β)) : TransitionSystem σ (α × β) where
  init := init
  step s label s' := next s label.1 = some (s', label.2)

/-- Take a list of actions; the trace and the last state, if all were possible. -/
def runPartial (next : σ → α → Option (σ × β)) : σ → List α → Option (List (α × β) × σ)
  | s, [] => some ([], s)
  | s, action :: actions =>
      match next s action with
      | none => none
      | some (s', answer) =>
          (runPartial next s' actions).map fun (trace, last) => ((action, answer) :: trace, last)

variable {init : σ → Prop} {next : σ → α → Option (σ × β)}

theorem Execution.append_runPartial {actions : List α} {before trace : List (α × β)} {s last : σ}
    (run : (ofPartial init next).Execution before s)
    (ran : runPartial next s actions = some (trace, last)) :
    (ofPartial init next).Execution (before ++ trace) last := by
  induction actions generalizing before trace s with
  | nil =>
      obtain ⟨rfl, rfl⟩ : [] = trace ∧ s = last := by simpa [runPartial] using ran
      simpa using run
  | cons action actions ih =>
      rw [runPartial] at ran
      cases step : next s action with
      | none => simp [step] at ran
      | some result =>
          obtain ⟨s', answer⟩ := result
          simp only [step, Option.map_eq_some_iff, Prod.mk.injEq, Prod.exists] at ran
          obtain ⟨later, _, ran, rfl, rfl⟩ := ran
          have extended : (ofPartial init next).Execution (before ++ [(action, answer)]) s' :=
            .step run step
          simpa using ih extended ran

/-- A list of possible actions is an execution. -/
theorem Execution.of_runPartial {actions : List α} {trace : List (α × β)} {s last : σ}
    (initial : init s) (ran : runPartial next s actions = some (trace, last)) :
    (ofPartial init next).Execution trace last := by
  simpa using Execution.append_runPartial (.start initial) ran

/-- A list of possible actions that pass a test is an execution of the system that is guarded by a
condition the test implies. -/
theorem Execution.guarded_of_runPartial {condition : σ → α × β → Prop} {test : σ → α → Bool}
    (sound : ∀ s label, test s label.1 = true → condition s label) {actions : List α}
    {trace : List (α × β)} {s last : σ} (initial : init s)
    (ran : runPartial (fun s action => if test s action then next s action else none) s actions =
      some (trace, last)) :
    ((ofPartial init next).guarded condition).Execution trace last := by
  have run := Execution.of_runPartial initial ran
  clear ran
  induction run with
  | start initial => exact .start initial
  | @step trace before after label _ step ih =>
      obtain ⟨passes, possible⟩ :
          test before label.1 = true ∧ next before label.1 = some (after, label.2) := by
        simpa [ofPartial] using step
      exact .step ih ⟨possible, sound before label passes⟩

end OfPartial

end TransitionSystem
