/-
Module: ProstheticConscience.Consensus.Solver
Purpose: The grounded-semantics solver: graphs, their builder, the in-place labelling loop, and
  the proof that it computes the grounded labelling.  Node numbers are natural numbers; a graph
  with 2^32 nodes or more is outside the model.
Trusted boundary: none
Main exports: Label, Graph, GraphBuilder, groundedLabelling, groundedLabelling_is_grounded
-/
import ProstheticConscience.Library.Argumentation
import Mathlib.Data.List.Basic

namespace ProstheticConscience.Consensus

/-- A node in the argumentation graph. -/
abbrev NodeId := Nat

/-- The label assigned to a node by the solver. -/
inductive Label where
  | In
  | Out
  | Undec
deriving DecidableEq, Repr

/-- An argumentation graph: `attackedBy` lists the attackers of every node. -/
structure Graph where
  nodeCount : Nat
  attackedBy : List (List NodeId)
  supportedBy : List (List NodeId)
  attackedBy_length : attackedBy.length = nodeCount
  supportedBy_length : supportedBy.length = nodeCount
deriving DecidableEq, Repr

/-- The attackers of a node, none for a node that does not exist. -/
def Graph.attackers (graph : Graph) (target : NodeId) : List NodeId :=
  graph.attackedBy.getD target []

/-- Incremental builder: edges are pairs of source and target. -/
structure GraphBuilder where
  nodeCount : Nat
  attacks : List (NodeId × NodeId)
  supports : List (NodeId × NodeId)
deriving DecidableEq, Repr

def Graph.builder (nodeCount : Nat) : GraphBuilder where
  nodeCount := nodeCount
  attacks := []
  supports := []

namespace GraphBuilder

def attack (builder : GraphBuilder) (source target : NodeId) : GraphBuilder :=
  { builder with attacks := builder.attacks ++ [(source, target)] }

def support (builder : GraphBuilder) (source target : NodeId) : GraphBuilder :=
  { builder with supports := builder.supports ++ [(source, target)] }

/-- Append every source to the list of its target; a target that does not exist is skipped. -/
def pushSources (lists : List (List NodeId)) (edges : List (NodeId × NodeId)) :
    List (List NodeId) :=
  edges.foldl (fun lists edge => lists.modify edge.2 (· ++ [edge.1])) lists

/-- Adding attackers adds no node. -/
theorem pushSources_length (edges : List (NodeId × NodeId)) (lists : List (List NodeId)) :
    (pushSources lists edges).length = lists.length := by
  induction edges generalizing lists with
  | nil => rfl
  | cons edge rest ih =>
      rw [pushSources, List.foldl_cons, ← pushSources, ih, List.length_modify]

def build (builder : GraphBuilder) : Graph where
  nodeCount := builder.nodeCount
  attackedBy := pushSources (List.replicate builder.nodeCount []) builder.attacks
  supportedBy := pushSources (List.replicate builder.nodeCount []) builder.supports
  attackedBy_length := by rw [pushSources_length, List.length_replicate]
  supportedBy_length := by rw [pushSources_length, List.length_replicate]

/-- A node's attackers are those it had and the sources of the edges to it. -/
theorem mem_pushSources (edges : List (NodeId × NodeId)) (lists : List (List NodeId))
    (source target : NodeId) :
    source ∈ (pushSources lists edges).getD target [] ↔
      source ∈ lists.getD target [] ∨ ((source, target) ∈ edges ∧ target < lists.length) := by
  induction edges generalizing lists with
  | nil => simp [pushSources]
  | cons edge rest ih =>
      rw [pushSources, List.foldl_cons, ← pushSources, ih, List.length_modify]
      have pushed : source ∈ (lists.modify edge.2 (· ++ [edge.1])).getD target [] ↔
          source ∈ lists.getD target [] ∨ ((source, target) = edge ∧ target < lists.length) := by
        obtain ⟨edgeSource, edgeTarget⟩ := edge
        simp only [List.getD_eq_getElem?_getD, List.getElem?_modify, Prod.mk.injEq]
        by_cases inside : target < lists.length
        · by_cases same : edgeTarget = target
          · simp [inside, same]
          · simp [inside, same, Ne.symm same]
        · simp [inside]
      rw [pushed, List.mem_cons]
      tauto

/-- The graph that is built has exactly the attack edges with an existing target. -/
theorem mem_attackers_build (builder : GraphBuilder) (source target : NodeId) :
    source ∈ builder.build.attackers target ↔
      (source, target) ∈ builder.attacks ∧ target < builder.nodeCount := by
  rw [Graph.attackers, build, mem_pushSources, List.length_replicate]
  constructor
  · rintro (initial | edge)
    · rw [List.getD_eq_getElem?_getD, List.getElem?_replicate] at initial
      split at initial <;> simp at initial
    · exact edge
  · exact Or.inr

end GraphBuilder

/-! ### The labelling loop -/

/-- One iteration of the inner loop: visit `node`, given the labels and the `changed` flag. -/
def visit (graph : Graph) (acc : List Label × Bool) (node : NodeId) : List Label × Bool :=
  let (labels, changed) := acc
  if labels[node]? ≠ some .Undec then
    (labels, changed)
  else if (graph.attackers node).all fun a => decide (labels[a]? = some .Out) then
    (labels.set node .In, true)
  else if (graph.attackers node).any fun a => decide (labels[a]? = some .In) then
    (labels.set node .Out, true)
  else
    (labels, changed)

/-- One pass of the inner loop over all nodes. -/
def pass (graph : Graph) (labels : List Label) : List Label × Bool :=
  (List.range graph.nodeCount).foldl (visit graph) (labels, false)

/-- What one visit does, with the guard that was taken. -/
inductive Visit (graph : Graph) (labels : List Label) (changed : Bool) (node : NodeId) :
    List Label × Bool → Prop where
  /-- The node already has its label. -/
  | settled (decided : labels[node]? ≠ some .Undec) :
      Visit graph labels changed node (labels, changed)
  /-- All attackers are out. -/
  | accepted (undecided : labels[node]? = some .Undec)
      (allOut : ∀ a ∈ graph.attackers node, labels[a]? = some .Out) :
      Visit graph labels changed node (labels.set node .In, true)
  /-- Some attacker is in. -/
  | rejected (undecided : labels[node]? = some .Undec) (attacker : NodeId)
      (attacks : attacker ∈ graph.attackers node) (attackerIn : labels[attacker]? = some .In) :
      Visit graph labels changed node (labels.set node .Out, true)
  /-- Neither holds yet. -/
  | stuck (notAllOut : ¬ ∀ a ∈ graph.attackers node, labels[a]? = some .Out)
      (noneIn : ∀ a ∈ graph.attackers node, labels[a]? ≠ some .In) :
      Visit graph labels changed node (labels, changed)

/-- The inversion of a visit: the label it gives a node, or that it gives none, and why. -/
theorem visit_cases (graph : Graph) (labels : List Label) (changed : Bool) (node : NodeId) :
    Visit graph labels changed node (visit graph (labels, changed) node) := by
  unfold visit
  dsimp only
  split
  · rename_i decided
    exact .settled decided
  · rename_i undecided
    have undecided : labels[node]? = some .Undec := not_not.mp undecided
    split
    · rename_i allOut
      apply Visit.accepted undecided
      simpa using allOut
    · rename_i notAllOut
      split
      · rename_i someIn
        obtain ⟨attacker, attacks, attackerIn⟩ := List.any_eq_true.mp someIn
        exact .rejected undecided attacker attacks (by simpa using attackerIn)
      · rename_i noneIn
        apply Visit.stuck
        · simpa using notAllOut
        · simpa using noneIn

/-! ### Termination: a pass that changes something labels a node -/

/-- Deciding a node leaves fewer undecided. -/
theorem count_set_undec {labels : List Label} {node : NodeId} {label : Label}
    (undecided : labels[node]? = some .Undec) (decided : label ≠ .Undec) :
    (labels.set node label).count .Undec < labels.count .Undec := by
  obtain ⟨inside, value⟩ := List.getElem?_eq_some_iff.mp undecided
  have positive : 0 < labels.count .Undec :=
    List.count_pos_iff.mpr (value ▸ List.getElem_mem inside)
  rw [List.count_set inside, value, if_pos (beq_self_eq_true _), if_neg (by simpa using decided)]
  omega

/-- A visit never makes a node undecided, and decides one if it says so. -/
theorem visit_count (graph : Graph) (acc : List Label × Bool) (node : NodeId) :
    (visit graph acc node).1.count .Undec ≤ acc.1.count .Undec ∧
      ((visit graph acc node).2 = true →
        acc.2 = true ∨ (visit graph acc node).1.count .Undec < acc.1.count .Undec) := by
  obtain ⟨labels, changed⟩ := acc
  have spec := visit_cases graph labels changed node
  generalize visit graph (labels, changed) node = after at spec ⊢
  cases spec with
  | settled decided => exact ⟨le_rfl, Or.inl⟩
  | accepted undecided allOut =>
      have fewer := count_set_undec undecided (by decide : Label.In ≠ .Undec)
      exact ⟨fewer.le, fun _ => Or.inr fewer⟩
  | rejected undecided attacker attacks attackerIn =>
      have fewer := count_set_undec undecided (by decide : Label.Out ≠ .Undec)
      exact ⟨fewer.le, fun _ => Or.inr fewer⟩
  | stuck notAllOut noneIn => exact ⟨le_rfl, Or.inl⟩

/-- The same for a pass over any nodes, by induction on them; the loop ends because a pass that
changes something decides a node. -/
theorem visits_count (graph : Graph) (nodes : List NodeId) (acc : List Label × Bool) :
    (nodes.foldl (visit graph) acc).1.count .Undec ≤ acc.1.count .Undec ∧
      ((nodes.foldl (visit graph) acc).2 = true →
        acc.2 = true ∨
          (nodes.foldl (visit graph) acc).1.count .Undec < acc.1.count .Undec) := by
  induction nodes generalizing acc with
  | nil => exact ⟨le_rfl, Or.inl⟩
  | cons node rest ih =>
      obtain ⟨headLe, headChanged⟩ := visit_count graph acc node
      obtain ⟨restLe, restChanged⟩ := ih (visit graph acc node)
      rw [List.foldl_cons]
      refine ⟨restLe.trans headLe, fun changed => ?_⟩
      rcases restChanged changed with early | fewer
      · rcases headChanged early with before | fewer
        · exact Or.inl before
        · exact Or.inr (restLe.trans_lt fewer)
      · exact Or.inr (fewer.trans_le headLe)

/-- A pass that reports a change has fewer undecided nodes. -/
theorem pass_count {graph : Graph} {labels : List Label} (changed : (pass graph labels).2 = true) :
    (pass graph labels).1.count .Undec < labels.count .Undec := by
  have progress := (visits_count graph (List.range graph.nodeCount) (labels, false)).2 changed
  exact progress.resolve_left (by simp)

/-- The outer loop: passes until one changes nothing. -/
def labelUntilStable (graph : Graph) (labels : List Label) : List Label :=
  if (pass graph labels).2 = true then
    labelUntilStable graph (pass graph labels).1
  else
    (pass graph labels).1
termination_by labels.count .Undec
decreasing_by exact pass_count ‹_›

/-- Compute the grounded labelling of a graph. -/
def groundedLabelling (graph : Graph) : List Label :=
  labelUntilStable graph (List.replicate graph.nodeCount .Undec)

/-! ### Correctness

Every label the loop writes is forced in the sense of `Framework.Forced`; a pass that changes
nothing shows that no label is left to write. -/

/-- The argumentation framework of a graph under construction. -/
def GraphBuilder.framework (builder : GraphBuilder) : Framework NodeId where
  args := {node | node < builder.nodeCount}
  attacks a b := (a, b) ∈ builder.attacks ∧ a < builder.nodeCount ∧ b < builder.nodeCount
  attacks_mem := fun attack => attack.2

/-- Every attack edge has existing end points. -/
def GraphBuilder.InRange (builder : GraphBuilder) : Prop :=
  ∀ edge ∈ builder.attacks, edge.1 < builder.nodeCount ∧ edge.2 < builder.nodeCount

instance (builder : GraphBuilder) : Decidable builder.InRange :=
  inferInstanceAs (Decidable (∀ edge ∈ builder.attacks, _))

/-- The framework of a builder has its attacks. -/
theorem GraphBuilder.InRange.attacks_iff {builder : GraphBuilder} (inRange : builder.InRange)
    {a b : NodeId} : builder.framework.attacks a b ↔ (a, b) ∈ builder.attacks :=
  ⟨fun attack => attack.1, fun edge => ⟨edge, inRange _ edge⟩⟩

/-- The attackers in the built graph are those of the framework. -/
theorem GraphBuilder.InRange.mem_attackers {builder : GraphBuilder} (inRange : builder.InRange)
    {a b : NodeId} : a ∈ builder.build.attackers b ↔ builder.framework.attacks a b := by
  rw [builder.mem_attackers_build, inRange.attacks_iff]
  exact ⟨fun edge => edge.1, fun edge => ⟨edge, (inRange _ edge).2⟩⟩

/-- The nodes that carry a label. -/
def labelled (labels : List Label) (label : Label) : Set NodeId :=
  {node | labels[node]? = some label}

/-- The nodes with a label. -/
@[simp] theorem mem_labelled {labels : List Label} {label : Label} {node : NodeId} :
    node ∈ labelled labels label ↔ labels[node]? = some label :=
  Iff.rfl

/-- Labelling a node adds it to the nodes with the label. -/
theorem labelled_set_self {labels : List Label} {node : NodeId} (label : Label)
    (inside : node < labels.length) :
    labelled (labels.set node label) label = insert node (labelled labels label) := by
  ext other
  rw [mem_labelled, List.getElem?_set, Set.mem_insert_iff, mem_labelled]
  by_cases same : node = other
  · subst same
    simp [inside]
  · simp [same, Ne.symm same]

/-- Labelling an undecided node leaves the nodes with other labels alone. -/
theorem labelled_set_other {labels : List Label} {node : NodeId} {label other : Label}
    (undecided : labels[node]? = some .Undec) (different : label ≠ other)
    (decided : other ≠ .Undec) :
    labelled (labels.set node label) other = labelled labels other := by
  ext place
  rw [mem_labelled, List.getElem?_set, mem_labelled]
  by_cases same : node = place
  · subst same
    rw [undecided]
    simp [different, Ne.symm decided]
  · simp [same]

/-- The loop invariant: every label that has been written is forced. -/
structure LabelsForced (builder : GraphBuilder) (labels : List Label) : Prop where
  length : labels.length = builder.nodeCount
  forced : builder.framework.Forced (labelled labels .In) (labelled labels .Out)

/-- Without labels nothing is claimed. -/
theorem labelsForced_start (builder : GraphBuilder) :
    LabelsForced builder (List.replicate builder.nodeCount .Undec) where
  length := List.length_replicate
  forced := by
    have unlabelled : ∀ label, label ≠ .Undec →
        labelled (List.replicate builder.nodeCount .Undec) label = ∅ := by
      intro label decided
      ext node
      simp [List.getElem?_replicate, Ne.symm decided]
    rw [unlabelled .In (by decide), unlabelled .Out (by decide)]
    exact Framework.Forced.empty _

/-- Every in-place step is sound. -/
theorem visit_forced {builder : GraphBuilder} (inRange : builder.InRange)
    (acc : List Label × Bool) (node : NodeId) (invariant : LabelsForced builder acc.1) :
    LabelsForced builder (visit builder.build acc node).1 := by
  obtain ⟨labels, changed⟩ := acc
  have spec := visit_cases builder.build labels changed node
  generalize visit builder.build (labels, changed) node = after at spec ⊢
  cases spec with
  | settled decided => exact invariant
  | stuck notAllOut noneIn => exact invariant
  | accepted undecided allOut =>
      have inside : node < labels.length := (List.getElem?_eq_some_iff.mp undecided).1
      refine ⟨List.length_set.trans invariant.length, ?_⟩
      rw [labelled_set_self .In inside, labelled_set_other undecided (by decide) (by decide)]
      apply invariant.forced.accept
      · exact lt_of_lt_of_eq inside invariant.length
      · intro attacker attack
        exact allOut attacker (inRange.mem_attackers.mpr attack)
  | rejected undecided attacker attacks attackerIn =>
      have inside : node < labels.length := (List.getElem?_eq_some_iff.mp undecided).1
      refine ⟨List.length_set.trans invariant.length, ?_⟩
      rw [labelled_set_self .Out inside, labelled_set_other undecided (by decide) (by decide)]
      exact invariant.forced.reject (inRange.mem_attackers.mp attacks) attackerIn

/-- A pass over any nodes labels only what the framework forces. -/
theorem visits_forced {builder : GraphBuilder} (inRange : builder.InRange)
    (nodes : List NodeId) (acc : List Label × Bool) (invariant : LabelsForced builder acc.1) :
    LabelsForced builder (nodes.foldl (visit builder.build) acc).1 := by
  induction nodes generalizing acc with
  | nil => exact invariant
  | cons node rest ih => exact ih _ (visit_forced inRange acc node invariant)

/-- An undecided node to which neither rule applies. -/
def IsStuck (graph : Graph) (labels : List Label) (node : NodeId) : Prop :=
  labels[node]? = some .Undec →
    (¬ ∀ a ∈ graph.attackers node, labels[a]? = some .Out) ∧
      ∀ a ∈ graph.attackers node, labels[a]? ≠ some .In

/-- Visits that change nothing leave the labels alone and find every node stuck. -/
theorem visits_unchanged (graph : Graph) (nodes : List NodeId) (labels : List Label)
    (changed : Bool) (unchanged : (nodes.foldl (visit graph) (labels, changed)).2 = false) :
    (changed = false ∧ (nodes.foldl (visit graph) (labels, changed)).1 = labels) ∧
      ∀ node ∈ nodes, IsStuck graph labels node := by
  induction nodes generalizing labels changed with
  | nil => exact ⟨⟨unchanged, rfl⟩, by simp⟩
  | cons node rest ih =>
      rw [List.foldl_cons] at unchanged ⊢
      have spec := visit_cases graph labels changed node
      generalize visit graph (labels, changed) node = after at spec unchanged ⊢
      cases spec with
      | settled decided =>
          obtain ⟨same, restStuck⟩ := ih labels changed unchanged
          exact ⟨same, List.forall_mem_cons.mpr ⟨fun undecided => absurd undecided decided,
            restStuck⟩⟩
      | stuck notAllOut noneIn =>
          obtain ⟨same, restStuck⟩ := ih labels changed unchanged
          exact ⟨same, List.forall_mem_cons.mpr ⟨fun _ => ⟨notAllOut, noneIn⟩, restStuck⟩⟩
      | accepted undecided allOut => exact absurd (ih _ _ unchanged).1.1 (by decide)
      | rejected undecided attacker attacks attackerIn =>
          exact absurd (ih _ _ unchanged).1.1 (by decide)

/-- At the exit of the loop the labels are forced and no node can be labelled any more. -/
theorem labelUntilStable_spec {builder : GraphBuilder} (inRange : builder.InRange)
    (labels : List Label) (invariant : LabelsForced builder labels) :
    LabelsForced builder (labelUntilStable builder.build labels) ∧
      ∀ node < builder.nodeCount,
        IsStuck builder.build (labelUntilStable builder.build labels) node := by
  induction labels using labelUntilStable.induct builder.build with
  | case1 labels changed ih =>
      rw [labelUntilStable, if_pos changed]
      exact ih (visits_forced inRange _ _ invariant)
  | case2 labels unchanged =>
      rw [labelUntilStable, if_neg unchanged]
      obtain ⟨⟨_, same⟩, stuck⟩ := visits_unchanged builder.build
        (List.range builder.build.nodeCount) labels false (by simpa [pass] using unchanged)
      have passSame : (pass builder.build labels).1 = labels := same
      rw [passSame]
      exact ⟨invariant, fun node inside => stuck node (List.mem_range.mpr inside)⟩

/-- The labels partition the nodes. -/
theorem labelled_cases {labels : List Label} {node : NodeId} (inside : node < labels.length) :
    labels[node]? = some .In ∨ labels[node]? = some .Out ∨ labels[node]? = some .Undec := by
  rw [List.getElem?_eq_getElem inside]
  cases labels[node] <;> simp

/-- The nodes labelled in and out are the grounded extension and what it attacks. -/
theorem groundedLabelling_sets {builder : GraphBuilder} (inRange : builder.InRange) :
    (groundedLabelling builder.build).length = builder.nodeCount ∧
      labelled (groundedLabelling builder.build) .In = builder.framework.grounded ∧
      labelled (groundedLabelling builder.build) .Out =
        builder.framework.attackedBy builder.framework.grounded := by
  have unfolded : groundedLabelling builder.build =
      labelUntilStable builder.build (List.replicate builder.nodeCount .Undec) := rfl
  obtain ⟨invariant, stuck⟩ :=
    labelUntilStable_spec inRange _ (labelsForced_start builder)
  rw [← unfolded] at invariant stuck
  refine ⟨invariant.length, invariant.forced.eq_grounded ?_ ?_⟩
  · intro node known allOut
    rcases labelled_cases (lt_of_lt_of_eq known invariant.length.symm)
      with isIn | isOut | undecided
    · exact Or.inl isIn
    · exact Or.inr isOut
    · exact absurd (fun a attacks => allOut a (inRange.mem_attackers.mp attacks))
        (stuck node known undecided).1
  · rintro node ⟨attacker, attackerIn, attack⟩
    have known : node < builder.nodeCount := attack.2.2
    rcases labelled_cases (lt_of_lt_of_eq known invariant.length.symm)
      with isIn | isOut | undecided
    · exact Or.inl isIn
    · exact Or.inr isOut
    · exact absurd attackerIn
        ((stuck node known undecided).2 attacker (inRange.mem_attackers.mpr attack))

/-- A complete labelling of all nodes: a node is in exactly when all its attackers are out, and
out exactly when one of them is in. -/
structure GraphBuilder.IsCompleteLabelling (builder : GraphBuilder) (labels : List Label) :
    Prop where
  length : labels.length = builder.nodeCount
  in_iff : ∀ node < builder.nodeCount, labels[node]? = some .In ↔
    ∀ a, (a, node) ∈ builder.attacks → labels[a]? = some .Out
  out_iff : ∀ node < builder.nodeCount, labels[node]? = some .Out ↔
    ∃ a, (a, node) ∈ builder.attacks ∧ labels[a]? = some .In

/-- Complete labellings of the nodes are complete labellings of the framework. -/
theorem isCompleteLabelling_iff {builder : GraphBuilder} (inRange : builder.InRange)
    {labels : List Label} (length : labels.length = builder.nodeCount) :
    builder.IsCompleteLabelling labels ↔
      builder.framework.IsComplete (labelled labels .In) (labelled labels .Out) := by
  have known : ∀ {node : NodeId} {label : Label}, labels[node]? = some label →
      node < builder.nodeCount :=
    fun found => length ▸ (List.getElem?_eq_some_iff.mp found).1
  constructor
  · intro complete
    constructor
    · intro node
      constructor
      · intro isIn
        refine ⟨known isIn, fun a attack => ?_⟩
        exact (complete.in_iff node (known isIn)).mp isIn a (inRange.attacks_iff.mp attack)
      · rintro ⟨inside, allOut⟩
        rw [mem_labelled, complete.in_iff node inside]
        exact fun a edge => allOut a (inRange.attacks_iff.mpr edge)
    · ext node
      constructor
      · intro isOut
        obtain ⟨a, edge, attackerIn⟩ := (complete.out_iff node (known isOut)).mp isOut
        exact ⟨a, attackerIn, inRange.attacks_iff.mpr edge⟩
      · rintro ⟨a, attackerIn, attack⟩
        rw [mem_labelled, complete.out_iff node attack.2.2]
        exact ⟨a, attack.1, attackerIn⟩
  · intro complete
    refine ⟨length, fun node inside => ?_, fun node inside => ?_⟩
    · have accepted := complete.mem_accepted node
      rw [mem_labelled] at accepted
      rw [accepted]
      constructor
      · rintro ⟨_, allOut⟩ a edge
        exact allOut a (inRange.attacks_iff.mpr edge)
      · intro allOut
        exact ⟨inside, fun a attack => allOut a attack.1⟩
    · rw [← mem_labelled, complete.rejected_eq]
      constructor
      · rintro ⟨a, attackerIn, attack⟩
        exact ⟨a, attack.1, attackerIn⟩
      · rintro ⟨a, edge, attackerIn⟩
        exact ⟨a, attackerIn, inRange.attacks_iff.mpr edge⟩

/-- The solver returns the grounded labelling: it is complete, it lies below every complete
labelling, and the nodes it labels in are the least fixed point of the characteristic function. -/
theorem groundedLabelling_is_grounded (builder : GraphBuilder) (inRange : builder.InRange) :
    builder.IsCompleteLabelling (groundedLabelling builder.build) ∧
      (∀ other, builder.IsCompleteLabelling other → ∀ node : NodeId,
        ((groundedLabelling builder.build)[node]? = some .In → other[node]? = some .In) ∧
          ((groundedLabelling builder.build)[node]? = some .Out → other[node]? = some .Out)) ∧
      labelled (groundedLabelling builder.build) .In =
        builder.framework.characteristic.lfp := by
  obtain ⟨length, inEq, outEq⟩ := groundedLabelling_sets inRange
  refine ⟨?_, ?_, inEq⟩
  · rw [isCompleteLabelling_iff inRange length, inEq, outEq]
    exact builder.framework.grounded_isComplete
  · intro other complete node
    have otherComplete := (isCompleteLabelling_iff inRange complete.length).mp complete
    constructor
    · intro isIn
      exact otherComplete.grounded_subset (inEq ▸ isIn)
    · intro isOut
      exact otherComplete.attackedBy_subset (outEq ▸ isOut)

/-- A doubled attack, a reinstated node and a node that attacks itself. -/
def mixedBuilder : GraphBuilder :=
  ((((Graph.builder 4).attack 0 1).attack 0 1).attack 1 2).attack 3 3

/-- A graph with an accepted, a rejected and an undecided node. -/
theorem mixedBuilder_is_grounded :
    groundedLabelling mixedBuilder.build = [.In, .Out, .In, .Undec] ∧
      labelled (groundedLabelling mixedBuilder.build) .In =
        mixedBuilder.framework.characteristic.lfp :=
  ⟨by decide +kernel, (groundedLabelling_is_grounded mixedBuilder (by decide)).2.2⟩

end ProstheticConscience.Consensus
