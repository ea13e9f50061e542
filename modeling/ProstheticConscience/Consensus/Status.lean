/-
Module: ProstheticConscience.Consensus.Status
Purpose: Epistemic statuses, the pipeline from a log to the status of every claim, and its meaning
  in terms of the log alone.
Trusted boundary: none
Main exports: EpistemicStatus, computeAll, statuses, semanticStatus,
  lookup_statuses, statuses_agree_with_log
-/
import ProstheticConscience.Consensus.Reducer

namespace ProstheticConscience.Consensus

/-- The epistemic status of a claim, combining solver output with stance coverage. -/
inductive EpistemicStatus where
  | established
  | unexamined
  | contested
  | defeated
  | unresolved
deriving DecidableEq, Repr

/-- The status of a single claim from its label and the stances on it. -/
def epistemicStatus (label : Label) (stances : List StanceState) : EpistemicStatus :=
  match label with
  | .Out => .defeated
  | .Undec => .unresolved
  | .In =>
      if stances.isEmpty then .unexamined
      else if stances.any (·.position.isNegative) then .contested
      else .established

/-- The stances on a claim, in iteration order. -/
def stancesOn (state : MaterializedState) (claimId : ClaimId) : List StanceState :=
  state.stances.values.filter fun stance => decide (stance.targetId = claimId)

/-- Compute the status of every claim of the index. -/
def computeAll (state : MaterializedState) (labels : List Label) (indexToClaim : List ClaimId) :
    AssocMap ClaimId EpistemicStatus :=
  indexToClaim.zipIdx.foldl
    (fun result entry =>
      result.update entry.1
        (epistemicStatus (labels[entry.2]?.getD .Undec) (stancesOn state entry.1)))
    ∅

/-- The statuses of a materialized state: graph, labelling, statuses. -/
def statuses (state : MaterializedState) : AssocMap ClaimId EpistemicStatus :=
  computeAll state (groundedLabelling (toGraph state).1) (toGraph state).2

/-! ### The meaning of the statuses -/

open Classical in
/-- The status a log gives to an unresolved claim, read off the grounded extension and the latest
stances. -/
noncomputable def semanticStatus (log : List Entry) (id : ClaimId) : EpistemicStatus :=
  if id ∈ (argumentFramework log).attackedBy (argumentFramework log).grounded then .defeated
  else if id ∉ (argumentFramework log).grounded then .unresolved
  else if ∀ author position, ¬ LatestStance log id author position then .unexamined
  else if ∃ author position, LatestStance log id author position ∧ position.isNegative then
    .contested
  else .established

theorem semanticStatus_defeated {log : List Entry} {id : ClaimId} :
    semanticStatus log id = .defeated ↔
      id ∈ (argumentFramework log).attackedBy (argumentFramework log).grounded := by
  unfold semanticStatus
  split_ifs with attacked <;> simp [attacked]

theorem semanticStatus_unresolved {log : List Entry} {id : ClaimId} :
    semanticStatus log id = .unresolved ↔
      id ∉ (argumentFramework log).grounded ∧
        id ∉ (argumentFramework log).attackedBy (argumentFramework log).grounded := by
  unfold semanticStatus
  split_ifs with attacked grounded none negative
  · exact iff_of_false (by simp) fun neither => neither.2 attacked
  · exact iff_of_false (by simp) fun neither => neither.1 grounded
  · exact iff_of_false (by simp) fun neither => neither.1 grounded
  · exact iff_of_false (by simp) fun neither => neither.1 grounded
  · exact iff_of_true rfl ⟨grounded, attacked⟩

open Classical in
/-- A claim in the grounded extension is judged by its stances. -/
theorem semanticStatus_grounded {log : List Entry} {id : ClaimId}
    (grounded : id ∈ (argumentFramework log).grounded) :
    semanticStatus log id =
      if ∀ author position, ¬ LatestStance log id author position then .unexamined
      else if ∃ author position, LatestStance log id author position ∧ position.isNegative then
        .contested
      else .established := by
  rw [semanticStatus, if_neg ((argumentFramework log).grounded_conflictFree grounded),
    if_neg (not_not.mpr grounded)]

theorem semanticStatus_unexamined {log : List Entry} {id : ClaimId}
    (grounded : id ∈ (argumentFramework log).grounded) :
    semanticStatus log id = .unexamined ↔
      ∀ author position, ¬ LatestStance log id author position := by
  rw [semanticStatus_grounded grounded]
  split_ifs with none negative
  · exact iff_of_true rfl none
  · exact iff_of_false (by simp) none
  · exact iff_of_false (by simp) none

theorem semanticStatus_contested {log : List Entry} {id : ClaimId}
    (grounded : id ∈ (argumentFramework log).grounded) :
    semanticStatus log id = .contested ↔
      ∃ author position, LatestStance log id author position ∧ position.isNegative := by
  rw [semanticStatus_grounded grounded]
  split_ifs with none negative
  · refine iff_of_false (by simp) ?_
    rintro ⟨author, position, latest, _⟩
    exact none author position latest
  · exact iff_of_true rfl negative
  · exact iff_of_false (by simp) negative

theorem semanticStatus_established {log : List Entry} {id : ClaimId}
    (grounded : id ∈ (argumentFramework log).grounded) :
    semanticStatus log id = .established ↔
      (∃ author position, LatestStance log id author position) ∧
        ∀ author position, LatestStance log id author position → position.isNegative = false := by
  rw [semanticStatus_grounded grounded]
  split_ifs with none negative
  · refine iff_of_false (by simp) ?_
    rintro ⟨⟨author, position, latest⟩, _⟩
    exact none author position latest
  · refine iff_of_false (by simp) ?_
    obtain ⟨author, position, latest, isNegative⟩ := negative
    intro established
    simp [established.2 author position latest] at isNegative
  · refine iff_of_true rfl ⟨by simpa using none, fun author position latest => ?_⟩
    exact Bool.eq_false_iff.mpr fun isNegative => negative ⟨author, position, latest, isNegative⟩

theorem Position.isNegative_iff {position : Position} :
    position.isNegative = true ↔ position = .block ∨ position = .object := by
  cases position <;> simp [Position.isNegative]

/-- An author has a latest stance on a claim as soon as there is any. -/
theorem exists_latestStance_iff {log : List Entry} {target : ClaimId} {author : String} :
    (∃ position, LatestStance log target author position) ↔
      ∃ position, Entry.stance target author position ∈ log := by
  induction log using List.reverseRecOn with
  | nil => simp [LatestStance]
  | append_singleton log entry ih =>
      by_cases isStance : ∃ position, entry = .stance target author position
      · obtain ⟨position, rfl⟩ := isStance
        constructor
        · exact fun _ => ⟨position, by simp⟩
        · exact fun _ => ⟨position, latestStance_concat.mpr (Or.inl rfl)⟩
      · have other : ∀ position, entry ≠ .stance target author position :=
          fun position same => isStance ⟨position, same⟩
        simp only [latestStance_concat, List.mem_append, List.mem_singleton]
        constructor
        · rintro ⟨position, now | ⟨earlier, _⟩⟩
          · exact absurd now (other position)
          · obtain ⟨position, member⟩ := ih.mp ⟨position, earlier⟩
            exact ⟨position, Or.inl member⟩
        · rintro ⟨position, earlier | now⟩
          · obtain ⟨position, latest⟩ := ih.mpr ⟨position, earlier⟩
            exact ⟨position, Or.inr ⟨latest, other⟩⟩
          · exact absurd now.symm (other position)

theorem mem_stancesOn {log : List Entry} {state : MaterializedState} (rep : Represents log state)
    {target : ClaimId} {author : String} {position : Position} :
    { targetId := target, author, position } ∈ stancesOn state target ↔
      LatestStance log target author position := by
  rw [← rep.stances, stancesOn, List.mem_filter, AssocMap.values, List.mem_map]
  constructor
  · rintro ⟨⟨⟨⟨keyTarget, keyAuthor⟩, stance⟩, member, rfl⟩, _⟩
    have found := AssocMap.mem_entries_iff.mp member
    have holds := rep.stanceKeys _ _ _ found
    rw [MaterializedState.Holds, found] at holds
    simp only [Option.some.injEq, StanceState.mk.injEq, and_true] at holds
    obtain ⟨rfl, rfl⟩ := holds
    exact found
  · intro holds
    exact ⟨⟨_, AssocMap.mem_entries_iff.mpr holds, rfl⟩, by simp⟩

theorem stancesOn_target {state : MaterializedState} {target : ClaimId} {stance : StanceState}
    (member : stance ∈ stancesOn state target) : stance.targetId = target := by
  simpa using (List.mem_filter.mp member).2

/-- The stance-dependent part of the status of a claim that is in. -/
theorem epistemicStatus_in {log : List Entry} {state : MaterializedState}
    (rep : Represents log state) {id : ClaimId}
    (grounded : id ∈ (argumentFramework log).grounded) :
    epistemicStatus .In (stancesOn state id) = semanticStatus log id := by
  have unattacked := (argumentFramework log).grounded_conflictFree grounded
  have existsStance : ∀ test : Position → Bool,
      (∃ stance ∈ stancesOn state id, test stance.position) ↔
        ∃ author position, LatestStance log id author position ∧ test position := by
    intro test
    constructor
    · rintro ⟨stance, member, accepted⟩
      obtain rfl := stancesOn_target member
      exact ⟨stance.author, stance.position, (mem_stancesOn rep).mp member, accepted⟩
    · rintro ⟨author, position, latest, accepted⟩
      exact ⟨_, (mem_stancesOn rep).mpr latest, accepted⟩
  have emptyIff : (stancesOn state id).isEmpty ↔
      ∀ author position, ¬ LatestStance log id author position := by
    have anyStance := existsStance fun _ => true
    rw [List.isEmpty_iff, List.eq_nil_iff_forall_not_mem]
    simp only [and_true] at anyStance
    constructor
    · intro none author position latest
      obtain ⟨stance, member⟩ := anyStance.mpr ⟨author, position, latest⟩
      exact none stance member
    · intro none stance member
      obtain ⟨author, position, latest⟩ := anyStance.mp ⟨stance, member⟩
      exact none author position latest
  have negativeIff : (stancesOn state id).any (·.position.isNegative) ↔
      ∃ author position, LatestStance log id author position ∧ position.isNegative := by
    rw [List.any_eq_true]
    exact existsStance Position.isNegative
  rw [semanticStatus, if_neg unattacked, if_neg (not_not.mpr grounded), epistemicStatus]
  split
  · rename_i empty
    rw [if_pos (emptyIff.mp empty)]
  · rename_i nonempty
    rw [if_neg (mt emptyIff.mpr nonempty)]
    split
    · rename_i negative
      rw [if_pos (negativeIff.mp negative)]
    · rename_i noNegative
      rw [if_neg (mt negativeIff.mpr noNegative)]

/-- The status computed from the solver's label is the status the log gives. -/
theorem epistemicStatus_label {log : List Entry} {state : MaterializedState}
    (rep : Represents log state) {node : NodeId}
    (known : node ∈ (graphBuilder state).framework.args) :
    epistemicStatus ((groundedLabelling (graphBuilder state).build)[node]?.getD .Undec)
        (stancesOn state (claimAt (activeNodes state).2 node)) =
      semanticStatus log (claimAt (activeNodes state).2 node) := by
  have iso := toGraph_isIso rep
  obtain ⟨length, inEq, outEq⟩ := groundedLabelling_sets (graphBuilder_inRange state)
  have inIff := iso.mem_grounded_iff known
  have outIff := iso.mem_attackedBy_grounded_iff known
  rw [← inEq, mem_labelled] at inIff
  rw [← outEq, mem_labelled] at outIff
  rcases labelled_cases (lt_of_lt_of_eq known length.symm) with isIn | isOut | undecided
  · rw [isIn]
    exact epistemicStatus_in rep (inIff.mpr isIn)
  · rw [isOut, semanticStatus, if_pos (outIff.mpr isOut)]
    rfl
  · have notOut := mt outIff.mp (by simp [undecided])
    have notIn := mt inIff.mp (by simp [undecided])
    rw [undecided, semanticStatus, if_neg notOut, if_pos notIn]
    rfl

theorem lookup_computeAll {state : MaterializedState} {labels : List Label}
    {index : List ClaimId} (distinct : index.Nodup) {id : ClaimId} {status : EpistemicStatus} :
    (computeAll state labels index).lookup id = some status ↔
      ∃ node : Nat, index[node]? = some id ∧
        epistemicStatus (labels[node]?.getD .Undec) (stancesOn state id) = status := by
  have asMap : computeAll state labels index =
      ((index.zipIdx.map fun entry =>
        (entry.1, epistemicStatus (labels[entry.2]?.getD .Undec) (stancesOn state entry.1))).foldl
          (fun result entry => result.update entry.1 entry.2) ∅) := by
    rw [computeAll, List.foldl_map]
  have keys : (index.zipIdx.map fun entry =>
      (entry.1, epistemicStatus (labels[entry.2]?.getD .Undec) (stancesOn state entry.1))).map
        (·.1) = index := by
    rw [List.map_map]
    exact List.zipIdx_map_fst 0 index
  rw [asMap, AssocMap.lookup_foldl_update _ _ _ _ (keys.symm ▸ distinct)]
  simp only [AList.lookup_empty, reduceCtorEq, and_false, or_false, List.mem_map, Prod.mk.injEq]
  constructor
  · rintro ⟨⟨claim, node⟩, member, rfl, same⟩
    exact ⟨node, List.mk_mem_zipIdx_iff_getElem?.mp member, same⟩
  · rintro ⟨node, found, same⟩
    exact ⟨(id, node), List.mk_mem_zipIdx_iff_getElem?.mpr found, rfl, same⟩

/-- The pipeline computes the status the log gives to each unresolved claim, and nothing for any
other id. -/
theorem lookup_statuses {log : List Entry} {state : MaterializedState}
    (rep : Represents log state) {id : ClaimId} {status : EpistemicStatus} :
    (statuses state).lookup id = some status ↔
      id ∈ unresolvedClaims log ∧ semanticStatus log id = status := by
  obtain ⟨numbered, member⟩ := activeNodes_spec state
  have distinct : (activeNodes state).2.Nodup := by
    rw [List.nodup_iff_injective_getElem]
    intro i j same
    apply Fin.ext
    exact numbered.inj (List.getElem?_eq_getElem i.2)
      ((List.getElem?_eq_getElem j.2).trans (congrArg some same.symm))
  rw [statuses, toGraph, lookup_computeAll distinct]
  constructor
  · rintro ⟨node, found, same⟩
    have known : node ∈ (graphBuilder state).framework.args :=
      lt_of_lt_of_eq (List.getElem?_eq_some_iff.mp found).1 (graphBuilder_nodeCount state).symm
    have meaning := epistemicStatus_label rep known
    rw [claimAt_eq_of_getElem? found] at meaning
    refine ⟨?_, meaning.symm.trans same⟩
    rw [← rep.active_iff, ← member]
    exact List.mem_of_getElem? found
  · rintro ⟨unresolved, same⟩
    rw [← rep.active_iff, ← member, List.mem_iff_getElem?] at unresolved
    obtain ⟨node, found⟩ := unresolved
    have known : node ∈ (graphBuilder state).framework.args :=
      lt_of_lt_of_eq (List.getElem?_eq_some_iff.mp found).1 (graphBuilder_nodeCount state).symm
    have meaning := epistemicStatus_label rep known
    rw [claimAt_eq_of_getElem? found] at meaning
    exact ⟨node, found, meaning.trans same⟩

/-- States that stand for one log have the same statuses. -/
theorem statuses_same {log : List Entry} {first second : MaterializedState}
    (firstRep : Represents log first) (secondRep : Represents log second) :
    AssocMap.Same (statuses first) (statuses second) := by
  apply AssocMap.same_of_lookup_eq
  intro id
  ext status
  rw [lookup_statuses firstRep, lookup_statuses secondRep]

/-- End to end: whatever the iteration order of the maps, the domain of the result is the set of
unresolved claims and every status is the one the grounded extension and the latest stances of the
log give; hence two participants with the same log compute the same map. -/
theorem statuses_agree_with_log (log : List Entry) (state : MaterializedState)
    (order : (replay log).Reorder state) :
    (∀ id, id ∈ statuses state ↔ id ∈ unresolvedClaims log) ∧
      (∀ id ∈ unresolvedClaims log,
        ((statuses state).lookup id = some .defeated ↔
          id ∈ (argumentFramework log).attackedBy (argumentFramework log).grounded) ∧
        ((statuses state).lookup id = some .unresolved ↔
          id ∉ (argumentFramework log).grounded ∧
            id ∉ (argumentFramework log).attackedBy (argumentFramework log).grounded) ∧
        (id ∈ (argumentFramework log).grounded →
          ((statuses state).lookup id = some .unexamined ↔
            ∀ author position, Entry.stance id author position ∉ log) ∧
          ((statuses state).lookup id = some .contested ↔
            ∃ author position, LatestStance log id author position ∧
              (position = .block ∨ position = .object)) ∧
          ((statuses state).lookup id = some .established ↔
            (∃ author position, Entry.stance id author position ∈ log) ∧
              ∀ author position, LatestStance log id author position →
                position ≠ .block ∧ position ≠ .object))) ∧
      ∀ other, (replay log).Reorder other → AssocMap.Same (statuses state) (statuses other) := by
  have rep := (replay_represents log).reorder order
  refine ⟨?_, ?_, ?_⟩
  · intro id
    rw [AssocMap.mem_iff_lookup]
    simp [lookup_statuses rep]
  · intro id unresolved
    have value : ∀ status, (statuses state).lookup id = some status ↔
        semanticStatus log id = status := by
      intro status
      rw [lookup_statuses rep, and_iff_right unresolved]
    have anyStance : ∀ author, (∃ position, LatestStance log id author position) ↔
        ∃ position, Entry.stance id author position ∈ log := fun _ => exists_latestStance_iff
    simp only [value]
    refine ⟨semanticStatus_defeated, semanticStatus_unresolved, fun grounded => ⟨?_, ?_, ?_⟩⟩
    · rw [semanticStatus_unexamined grounded]
      refine forall_congr' fun author => ?_
      rw [← not_exists, anyStance, not_exists]
    · rw [semanticStatus_contested grounded]
      simp only [Position.isNegative_iff]
    · rw [semanticStatus_established grounded]
      simp only [anyStance, ← not_or, ← Position.isNegative_iff, Bool.not_eq_true]
  · intro other otherOrder
    exact statuses_same rep ((replay_represents log).reorder otherOrder)

/-- The same map, iterated backwards. -/
def backwards {κ ν : Type} (m : AssocMap κ ν) : AssocMap κ ν where
  entries := m.entries.reverse
  nodupKeys := (List.perm_nodupKeys (List.reverse_perm m.entries)).mpr m.nodupKeys

/-- A disputed proposal, its attacker and a resolved claim. -/
def disputeLog : List Entry :=
  [.claim ⟨"c1"⟩ "ava" "Use tokens" .proposal none,
    .claim ⟨"c2"⟩ "ben" "Tokens leak" .fact none,
    .claim ⟨"c3"⟩ "ben" "Rotate them" .fact (some ⟨"c2"⟩),
    .relation ⟨"c2"⟩ ⟨"c1"⟩ .attacks "ben",
    .relation ⟨"c3"⟩ ⟨"c2"⟩ .attacks "ava",
    .resolve ⟨"c3"⟩ "ava" .accepted,
    .stance ⟨"c2"⟩ "ava" .block]

theorem disputeLog_statuses_agree :
    AssocMap.Same
        (statuses { replay disputeLog with claims := backwards (replay disputeLog).claims })
        (statuses (replay disputeLog)) ∧
      (statuses (replay disputeLog)).lookup ⟨"c1"⟩ = some .defeated ∧
      (statuses (replay disputeLog)).lookup ⟨"c2"⟩ = some .contested :=
  ⟨(statuses_agree_with_log disputeLog
      { replay disputeLog with claims := backwards (replay disputeLog).claims }
      ⟨(List.reverse_perm _).symm, rfl, .refl _, .refl _, rfl⟩).2.2 _ (.refl _),
    by decide +kernel, by decide +kernel⟩

end ProstheticConscience.Consensus
