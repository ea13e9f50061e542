/-
Module: ProstheticConscience.Consensus.Reducer
Purpose: The reducer that replays a log into a materialized state, the solver graph extracted from
  that state, and what both say about the log.
Trusted boundary: none
Main exports: reduce, replay, toGraph, argumentFramework, Represents, replay_represents,
  toGraph_isIso
-/
import ProstheticConscience.Consensus.Types
import Mathlib.Data.List.Induction

namespace ProstheticConscience.Consensus

/-- Apply a single log entry to the materialized state. -/
def reduce (state : MaterializedState) : Entry → MaterializedState
  | .claim claimId author body claimKind parentId =>
      -- first writer wins: duplicate claim ids are ignored
      if claimId ∈ state.claims then state
      else
        { state with
          nextNodeId := state.nextNodeId + 1
          nodeMap := state.nodeMap.update claimId state.nextNodeId
          claims :=
            state.claims.update claimId
              { id := claimId, author, body, kind := claimKind, parentId, resolution := none } }
  | .relation sourceId targetId kind author =>
      { state with relations := state.relations ++ [{ sourceId, targetId, kind, author }] }
  | .stance targetId author position =>
      { state with
        stances := state.stances.update (targetId, author) { targetId, author, position } }
  | .resolve claimId author outcome =>
      match state.claims.lookup claimId with
      | some claim =>
          { state with
            claims := state.claims.update claimId
              { claim with resolution := some { outcome, author } } }
      | none => state
  | .comment _ _ _ => state

/-- Replay a full log of entries into a materialized state. -/
def replay (entries : List Entry) : MaterializedState :=
  entries.foldl reduce MaterializedState.new

/-- Replaying a log and one more entry is one more step of the reducer. -/
theorem replay_concat (entries : List Entry) (entry : Entry) :
    replay (entries ++ [entry]) = reduce (replay entries) entry := by
  rw [replay, List.foldl_append]
  rfl

/-! ### One entry -/

/-- The claim that an entry introduces, unresolved. -/
def Entry.claim? : Entry → Option ClaimState
  | .claim claimId author body claimKind parentId =>
      some { id := claimId, author, body, kind := claimKind, parentId, resolution := none }
  | _ => none

/-- The resolution that an entry gives to a claim. -/
def Entry.resolution? (id : ClaimId) : Entry → Option Resolution
  | .resolve claimId author outcome => if claimId = id then some { outcome, author } else none
  | _ => none

/-- The relation that an entry adds. -/
def Entry.relation? : Entry → Option RelationState
  | .relation sourceId targetId kind author => some { sourceId, targetId, kind, author }
  | _ => none

/-- A known claim takes a resolution only; an unknown one is introduced. -/
theorem lookup_claims_reduce (state : MaterializedState) (entry : Entry) (id : ClaimId) :
    (reduce state entry).claims.lookup id =
      match state.claims.lookup id with
      | some claim => some { claim with
          resolution := (entry.resolution? id).or claim.resolution }
      | none => entry.claim?.filter fun claim => decide (claim.id = id) := by
  cases entry with
  | claim claimId author body claimKind parentId =>
      rw [reduce]
      by_cases known : claimId ∈ state.claims
      · rw [if_pos known]
        cases found : state.claims.lookup id with
        | some claim => rfl
        | none =>
            have other : claimId ≠ id := fun same => AList.lookup_eq_none.mp found (same ▸ known)
            simp [Entry.claim?, Option.filter_some, other]
      · rw [if_neg known]
        dsimp only
        rw [AssocMap.lookup_update]
        by_cases same : id = claimId
        · subst same
          rw [AList.lookup_eq_none.mpr known]
          simp [Entry.claim?, Option.filter_some]
        · rw [if_neg same]
          cases found : state.claims.lookup id with
          | some claim => rfl
          | none => simp [Entry.claim?, Option.filter_some, Ne.symm same]
  | resolve claimId author outcome =>
      rw [reduce]
      cases foundClaim : state.claims.lookup claimId with
      | some claim =>
          dsimp only
          rw [AssocMap.lookup_update]
          by_cases same : id = claimId
          · subst same
            rw [if_pos rfl, foundClaim]
            simp [Entry.resolution?]
          · rw [if_neg same]
            cases state.claims.lookup id with
            | some other => simp [Entry.resolution?, Ne.symm same]
            | none => rfl
      | none =>
          dsimp only
          cases found : state.claims.lookup id with
          | some other =>
              have different : claimId ≠ id := by
                intro same
                rw [same, found] at foundClaim
                cases foundClaim
              simp [Entry.resolution?, different]
          | none => rfl
  | _ =>
      simp only [reduce]
      cases state.claims.lookup id <;> rfl

/-- An entry appends its relation, if it is one. -/
theorem relations_reduce (state : MaterializedState) (entry : Entry) :
    (reduce state entry).relations = state.relations ++ entry.relation?.toList := by
  cases entry with
  | relation sourceId targetId kind author => rfl
  | claim claimId author body claimKind parentId =>
      rw [reduce]
      split <;> exact (List.append_nil _).symm
  | resolve claimId author outcome =>
      rw [reduce]
      split <;> exact (List.append_nil _).symm
  | _ => exact (List.append_nil _).symm

/-! ### The solver graph -/

/-- The active claims get dense node numbers in iteration order: their number by id, and the list
that maps numbers back to ids. -/
def activeNodes (state : MaterializedState) : AssocMap ClaimId NodeId × List ClaimId :=
  state.claims.entries.foldl
    (fun acc entry =>
      if entry.2.resolution.isSome then acc
      else (acc.1.update entry.1 acc.2.length, acc.2 ++ [entry.1]))
    (∅, [])

/-- Add one relation to the graph, if both end points are active. -/
def addRelation (activeNodeMap : AssocMap ClaimId NodeId) (builder : GraphBuilder)
    (relation : RelationState) : GraphBuilder :=
  match activeNodeMap.lookup relation.sourceId, activeNodeMap.lookup relation.targetId with
  | some srcNode, some tgtNode =>
      match relation.kind with
      | .attacks => builder.attack srcNode tgtNode
      | .supports => builder.support srcNode tgtNode
  | _, _ => builder

/-- The builder of the solver graph, with all relations added. -/
def graphBuilder (state : MaterializedState) : GraphBuilder :=
  state.relations.foldl (addRelation (activeNodes state).1)
    (Graph.builder (activeNodes state).2.length)

/-- The solver graph of a state, and the claim of every node. -/
def toGraph (state : MaterializedState) : Graph × List ClaimId :=
  ((graphBuilder state).build, (activeNodes state).2)

/-! ### What a log says

The purpose of the pipeline, stated on the log alone. -/

/-- The log introduces a claim. -/
def HasClaim (log : List Entry) (id : ClaimId) : Prop :=
  ∃ author body claimKind parentId, Entry.claim id author body claimKind parentId ∈ log

/-- The log holds a resolution of a claim. -/
def HasResolve (log : List Entry) (id : ClaimId) : Prop :=
  ∃ author outcome, Entry.resolve id author outcome ∈ log

/-- A claim is resolved by a resolution that comes after its introduction. -/
def IsResolved (log : List Entry) (id : ClaimId) : Prop :=
  ∃ before after, log = before ++ after ∧ HasClaim before id ∧ HasResolve after id

/-- The claims of the log that are not resolved. -/
def unresolvedClaims (log : List Entry) : Set ClaimId :=
  {id | HasClaim log id ∧ ¬ IsResolved log id}

/-- The log holds an attacks relation. -/
def HasAttack (log : List Entry) (source target : ClaimId) : Prop :=
  ∃ author, Entry.relation source target .attacks author ∈ log

/-- The position of an author's latest stance on a claim. -/
def LatestStance (log : List Entry) (target : ClaimId) (author : String) (position : Position) :
    Prop :=
  ∃ before after, log = before ++ Entry.stance target author position :: after ∧
    ∀ later, Entry.stance target author later ∉ after

/-- The argumentation framework of a log: its unresolved claims and the attacks among them. -/
def argumentFramework (log : List Entry) : Framework ClaimId where
  args := unresolvedClaims log
  attacks a b := HasAttack log a b ∧ a ∈ unresolvedClaims log ∧ b ∈ unresolvedClaims log
  attacks_mem := fun attack => attack.2

/-- What one more entry does to the claims of a log. -/
theorem hasClaim_concat {log : List Entry} {entry : Entry} {id : ClaimId} :
    HasClaim (log ++ [entry]) id ↔ HasClaim log id ∨
      ∃ author body claimKind parentId, entry = .claim id author body claimKind parentId := by
  simp only [HasClaim, List.mem_append, List.mem_singleton]
  constructor
  · rintro ⟨author, body, kind, parent, earlier | last⟩
    · exact Or.inl ⟨author, body, kind, parent, earlier⟩
    · exact Or.inr ⟨author, body, kind, parent, last.symm⟩
  · rintro (⟨author, body, kind, parent, earlier⟩ | ⟨author, body, kind, parent, last⟩)
    · exact ⟨author, body, kind, parent, Or.inl earlier⟩
    · exact ⟨author, body, kind, parent, Or.inr last.symm⟩

/-- What one more entry does to the resolved claims of a log. -/
theorem isResolved_concat {log : List Entry} {entry : Entry} {id : ClaimId} :
    IsResolved (log ++ [entry]) id ↔ IsResolved log id ∨
      (HasClaim log id ∧ ∃ author outcome, entry = .resolve id author outcome) := by
  constructor
  · rintro ⟨before, after, split, introduced, author, outcome, resolution⟩
    rcases List.eq_nil_or_concat' after with rfl | ⟨init, last, rfl⟩
    · simp at resolution
    · rw [← List.append_assoc] at split
      obtain rfl : entry = last := by simpa using List.append_inj_right' split rfl
      have logEq : log = before ++ init := List.append_inj_left' split rfl
      rcases List.mem_append.mp resolution with earlier | now
      · exact Or.inl ⟨before, init, logEq, introduced, author, outcome, earlier⟩
      · refine Or.inr ⟨?_, author, outcome, (List.mem_singleton.mp now).symm⟩
        obtain ⟨author, body, kind, parent, member⟩ := introduced
        exact ⟨author, body, kind, parent, logEq ▸ List.mem_append_left _ member⟩
  · rintro (⟨before, after, rfl, introduced, author, outcome, resolution⟩ |
      ⟨introduced, author, outcome, rfl⟩)
    · exact ⟨before, after ++ [entry], by simp, introduced, author, outcome,
        List.mem_append_left _ resolution⟩
    · exact ⟨log, _, rfl, introduced, author, outcome, List.mem_singleton_self _⟩

/-- What one more entry does to the latest stances of a log. -/
theorem latestStance_concat {log : List Entry} {entry : Entry} {target : ClaimId}
    {author : String} {position : Position} :
    LatestStance (log ++ [entry]) target author position ↔
      entry = .stance target author position ∨
        (LatestStance log target author position ∧
          ∀ later, entry ≠ .stance target author later) := by
  constructor
  · rintro ⟨before, after, split, last⟩
    rcases List.eq_nil_or_concat' after with rfl | ⟨init, final, rfl⟩
    · exact Or.inl (by simpa using List.append_inj_right' split rfl)
    · have regroup : before ++ Entry.stance target author position :: (init ++ [final]) =
          (before ++ Entry.stance target author position :: init) ++ [final] := by simp
      rw [regroup] at split
      obtain rfl : entry = final := by simpa using List.append_inj_right' split rfl
      refine Or.inr ⟨⟨before, init, List.append_inj_left' split rfl, ?_⟩, ?_⟩
      · exact fun later member => last later (List.mem_append_left _ member)
      · rintro later rfl
        exact last later (by simp)
  · rintro (rfl | ⟨⟨before, after, rfl, last⟩, other⟩)
    · exact ⟨log, [], rfl, by simp⟩
    · refine ⟨before, after ++ [entry], by simp, fun later member => ?_⟩
      rcases List.mem_append.mp member with earlier | now
      · exact last later earlier
      · exact other later (List.mem_singleton.mp now).symm

/-- What one more entry does to the attacks of a log. -/
theorem hasAttack_concat {log : List Entry} {entry : Entry} {source target : ClaimId} :
    HasAttack (log ++ [entry]) source target ↔ HasAttack log source target ∨
      ∃ author, entry = .relation source target .attacks author := by
  simp only [HasAttack, List.mem_append, List.mem_singleton]
  constructor
  · rintro ⟨author, earlier | last⟩
    · exact Or.inl ⟨author, earlier⟩
    · exact Or.inr ⟨author, last.symm⟩
  · rintro (⟨author, earlier⟩ | ⟨author, last⟩)
    · exact ⟨author, Or.inl earlier⟩
    · exact ⟨author, Or.inr last.symm⟩

/-! ### What a materialized state says about its log

`Represents` relates a state to a log by what is asked of both: which claims there are, which are
resolved, whose stance is the latest, what attacks what. The reducer keeps it, entry by entry. -/

namespace MaterializedState

/-- The state holds a resolution of a claim. -/
def Resolved (state : MaterializedState) (id : ClaimId) : Prop :=
  ∃ claim, state.claims.lookup id = some claim ∧ claim.resolution.isSome

/-- The claim is known and not resolved. -/
def Active (state : MaterializedState) (id : ClaimId) : Prop :=
  ∃ claim, state.claims.lookup id = some claim ∧ claim.resolution.isSome = false

/-- An active claim is one that is not resolved. -/
theorem active_iff {state : MaterializedState} {id : ClaimId} :
    state.Active id ↔ id ∈ state.claims ∧ ¬ state.Resolved id := by
  rw [AssocMap.mem_iff_lookup]
  constructor
  · rintro ⟨claim, found, active⟩
    refine ⟨⟨claim, found⟩, ?_⟩
    rintro ⟨other, otherFound, resolved⟩
    obtain rfl := Option.some.inj (found.symm.trans otherFound)
    simp [active] at resolved
  · rintro ⟨⟨claim, found⟩, notResolved⟩
    exact ⟨claim, found, Bool.eq_false_iff.mpr fun resolved => notResolved ⟨claim, found, resolved⟩⟩

/-- The state holds an attacks relation. -/
def Attack (state : MaterializedState) (source target : ClaimId) : Prop :=
  ∃ author, { sourceId := source, targetId := target, kind := .attacks, author } ∈ state.relations

/-- The position an author holds on a claim. -/
def Holds (state : MaterializedState) (target : ClaimId) (author : String)
    (position : Position) : Prop :=
  state.stances.lookup (target, author) = some { targetId := target, author, position }

end MaterializedState

/-- What the reducer does to the claims. -/
theorem mem_claims_reduce {state : MaterializedState} {entry : Entry} {id : ClaimId} :
    id ∈ (reduce state entry).claims ↔ id ∈ state.claims ∨
      ∃ author body claimKind parentId, entry = .claim id author body claimKind parentId := by
  rw [AssocMap.mem_iff_lookup, AssocMap.mem_iff_lookup, lookup_claims_reduce]
  cases state.claims.lookup id with
  | some claim => simp
  | none => cases entry <;> simp [Entry.claim?, Option.filter_some, eq_comm]

/-- What the reducer does to the resolved claims: only claims that are there are resolved. -/
theorem resolved_reduce {state : MaterializedState} {entry : Entry} {id : ClaimId} :
    (reduce state entry).Resolved id ↔ state.Resolved id ∨
      (id ∈ state.claims ∧ ∃ author outcome, entry = .resolve id author outcome) := by
  unfold MaterializedState.Resolved
  rw [AssocMap.mem_iff_lookup, lookup_claims_reduce]
  cases state.claims.lookup id with
  | some claim =>
      cases entry with
      | resolve claimId author outcome =>
          by_cases same : claimId = id <;> simp [Entry.resolution?, same]
      | _ => simp [Entry.resolution?]
  | none => cases entry <;> simp [Entry.claim?, Option.filter_some]

/-- What the reducer does to the attacks. -/
theorem attack_reduce {state : MaterializedState} {entry : Entry} {source target : ClaimId} :
    (reduce state entry).Attack source target ↔ state.Attack source target ∨
      ∃ author, entry = .relation source target .attacks author := by
  simp only [MaterializedState.Attack, relations_reduce, List.mem_append, exists_or]
  cases entry with
  | relation sourceId targetId kind author =>
      simp [Entry.relation?, eq_comm (b := source), eq_comm (b := target),
        eq_comm (a := RelationKind.attacks)]
  | _ => simp [Entry.relation?]

/-- What the reducer does to the stances: a stance replaces the earlier one of its author on its
target. -/
theorem stances_reduce {state : MaterializedState} {entry : Entry} {target : ClaimId}
    {author : String} :
    (reduce state entry).stances.lookup (target, author) =
      match entry with
      | .stance targetId stanceAuthor position =>
          if targetId = target ∧ stanceAuthor = author then
            some { targetId := target, author, position }
          else state.stances.lookup (target, author)
      | _ => state.stances.lookup (target, author) := by
  cases entry with
  | stance targetId stanceAuthor position =>
      simp only [reduce, AssocMap.lookup_update, Prod.mk.injEq]
      by_cases same : targetId = target ∧ stanceAuthor = author
      · obtain ⟨rfl, rfl⟩ := same
        simp
      · rw [if_neg same, if_neg fun other => same ⟨other.1.symm, other.2.symm⟩]
  | claim claimId author body claimKind parentId =>
      rw [reduce]
      split <;> rfl
  | resolve claimId author outcome =>
      rw [reduce]
      split <;> rfl
  | relation sourceId targetId kind author => rfl
  | comment claimId author body => rfl

/-- What a materialized state says about the log it stands for. -/
structure Represents (log : List Entry) (state : MaterializedState) : Prop where
  claims : ∀ id, id ∈ state.claims ↔ HasClaim log id
  resolved : ∀ id, state.Resolved id ↔ IsResolved log id
  attacks : ∀ source target, state.Attack source target ↔ HasAttack log source target
  stances : ∀ target author position,
    state.Holds target author position ↔ LatestStance log target author position
  stanceKeys : ∀ target author stance, state.stances.lookup (target, author) = some stance →
    state.Holds target author stance.position

/-- Replaying a log gives a state that stands for it. -/
theorem replay_represents (log : List Entry) : Represents log (replay log) := by
  induction log using List.reverseRecOn with
  | nil =>
      constructor
      · simp [replay, MaterializedState.new, HasClaim]
      · intro id
        simp [replay, MaterializedState.new, MaterializedState.Resolved, IsResolved, HasClaim]
      · simp [replay, MaterializedState.new, MaterializedState.Attack, HasAttack]
      · simp [replay, MaterializedState.new, MaterializedState.Holds, LatestStance]
      · simp [replay, MaterializedState.new]
  | append_singleton log entry ih =>
      rw [replay_concat]
      constructor
      · intro id
        rw [mem_claims_reduce, hasClaim_concat, ih.claims]
      · intro id
        rw [resolved_reduce, isResolved_concat, ih.resolved, ih.claims]
      · intro source target
        rw [attack_reduce, hasAttack_concat, ih.attacks]
      · intro target author position
        rw [latestStance_concat, ← ih.stances, MaterializedState.Holds, stances_reduce]
        split
        · rename_i targetId stanceAuthor newPosition
          by_cases same : targetId = target ∧ stanceAuthor = author
          · obtain ⟨rfl, rfl⟩ := same
            simp
          · rw [if_neg same]
            constructor
            · intro found
              refine Or.inr ⟨found, fun later other => same ?_⟩
              cases other
              exact ⟨rfl, rfl⟩
            · rintro (now | ⟨found, _⟩)
              · cases now
                exact absurd ⟨rfl, rfl⟩ same
              · exact found
        · rename_i notStance
          constructor
          · exact fun found => Or.inr ⟨found, fun later => notStance _ _ _⟩
          · exact fun found => found.elim (fun now => absurd now (notStance _ _ _)) And.left
      · intro target author stance found
        rw [MaterializedState.Holds]
        rw [stances_reduce] at found ⊢
        split at found
        · rename_i targetId stanceAuthor newPosition
          by_cases same : targetId = target ∧ stanceAuthor = author
          · rw [if_pos same] at found ⊢
            cases found
            rfl
          · rw [if_neg same] at found ⊢
            exact ih.stanceKeys target author stance found
        · exact ih.stanceKeys target author stance found

/-- The iteration order of the maps says nothing about the log. -/
theorem Represents.reorder {log : List Entry} {before after : MaterializedState}
    (rep : Represents log before) (same : before.Reorder after) : Represents log after where
  claims id := by rw [← same.claims.mem_iff, rep.claims]
  resolved id := by
    rw [← rep.resolved, MaterializedState.Resolved, MaterializedState.Resolved,
      same.claims.lookup_eq]
  attacks source target := by
    rw [← rep.attacks, MaterializedState.Attack, MaterializedState.Attack, same.relations]
  stances target author position := by
    rw [← rep.stances, MaterializedState.Holds, MaterializedState.Holds, same.stances.lookup_eq]
  stanceKeys target author stance found := by
    rw [← same.stances.lookup_eq] at found
    have holds := rep.stanceKeys target author stance found
    rwa [MaterializedState.Holds, same.stances.lookup_eq] at holds

/-- The active claims of a state that represents a log are the unresolved ones of the log. -/
theorem Represents.active_iff {log : List Entry} {state : MaterializedState}
    (rep : Represents log state) {id : ClaimId} :
    state.Active id ↔ id ∈ unresolvedClaims log := by
  rw [MaterializedState.active_iff, rep.claims, rep.resolved]
  rfl

/-! ### The graph of a state

The nodes are the active claims in the order of iteration. Attacks from or to a claim that is not
active are left out, so that the graph is the framework of the log up to the numbering. -/

/-- A numbering of claims: the map gives every id its place in the list. -/
def Numbered (nodeMap : AssocMap ClaimId NodeId) (index : List ClaimId) : Prop :=
  ∀ (id : ClaimId) (node : Nat), nodeMap.lookup id = some node ↔ index[node]? = some id

/-- A numbering is extended by the next number for a claim that has none. -/
theorem Numbered.concat {nodeMap : AssocMap ClaimId NodeId} {index : List ClaimId}
    (numbered : Numbered nodeMap index) {id : ClaimId} (fresh : id ∉ index) :
    Numbered (nodeMap.update id index.length) (index ++ [id]) := by
  intro other node
  rw [AssocMap.lookup_update, List.getElem?_append]
  by_cases same : other = id
  · subst same
    have absent : index[node]? ≠ some other := fun found => fresh (List.mem_of_getElem? found)
    rw [if_pos rfl]
    by_cases inside : node < index.length
    · rw [if_pos inside]
      simp [absent, Nat.ne_of_gt inside]
    · have place : (index.length : Nat) = node ↔ node - index.length = 0 := by omega
      rw [if_neg inside, List.getElem?_singleton]
      simp [place]
  · rw [if_neg same, numbered other node]
    by_cases inside : node < index.length
    · rw [if_pos inside]
    · rw [if_neg inside, List.getElem?_eq_none (Nat.le_of_not_lt inside),
        List.getElem?_singleton]
      simp [Ne.symm same]

/-- No two numbers stand for one claim. -/
theorem Numbered.inj {nodeMap : AssocMap ClaimId NodeId} {index : List ClaimId}
    (numbered : Numbered nodeMap index) {id : ClaimId} {node other : NodeId}
    (atNode : index[node]? = some id) (atOther : index[other]? = some id) : node = other := by
  rw [← numbered] at atNode atOther
  exact Option.some.inj (atNode.symm.trans atOther)

/-- The loop over the claims numbers the unresolved ones. -/
theorem activeNodes_fold (entries : List (Sigma fun _ : ClaimId => ClaimState))
    (acc : AssocMap ClaimId NodeId × List ClaimId) (numbered : Numbered acc.1 acc.2)
    (distinct : (entries.map (·.1)).Nodup) (fresh : ∀ entry ∈ entries, entry.1 ∉ acc.2) :
    let nodes := entries.foldl
      (fun acc entry =>
        if entry.2.resolution.isSome then acc
        else (acc.1.update entry.1 acc.2.length, acc.2 ++ [entry.1])) acc
    Numbered nodes.1 nodes.2 ∧
      ∀ id, id ∈ nodes.2 ↔ id ∈ acc.2 ∨
        ∃ entry ∈ entries, entry.1 = id ∧ entry.2.resolution.isSome = false := by
  induction entries generalizing acc with
  | nil => simpa using numbered
  | cons entry rest ih =>
      rw [List.map_cons] at distinct
      obtain ⟨notLater, restDistinct⟩ := List.nodup_cons.mp distinct
      obtain ⟨headFresh, restFresh⟩ := List.forall_mem_cons.mp fresh
      rw [List.foldl_cons]
      split
      · rename_i resolved
        obtain ⟨restNumbered, restMem⟩ := ih acc numbered restDistinct restFresh
        refine ⟨restNumbered, fun id => ?_⟩
        rw [restMem, List.exists_mem_cons_iff]
        simp [resolved]
      · rename_i active
        have stillFresh : ∀ other ∈ rest, other.1 ∉ acc.2 ++ [entry.1] := by
          intro other member
          rw [List.mem_append, List.mem_singleton]
          rintro (earlier | same)
          · exact restFresh other member earlier
          · exact notLater (same ▸ List.mem_map_of_mem (f := (·.1)) member)
        obtain ⟨restNumbered, restMem⟩ :=
          ih (acc.1.update entry.1 acc.2.length, acc.2 ++ [entry.1])
            (numbered.concat headFresh) restDistinct stillFresh
        refine ⟨restNumbered, fun id => ?_⟩
        rw [restMem, List.exists_mem_cons_iff, List.mem_append, List.mem_singleton, or_assoc]
        have headActive : entry.2.resolution.isSome = false := by simpa using active
        rw [eq_comm (a := id), and_iff_left headActive]

/-- `activeNodes` numbers exactly the active claims. -/
theorem activeNodes_spec (state : MaterializedState) :
    Numbered (activeNodes state).1 (activeNodes state).2 ∧
      ∀ id, id ∈ (activeNodes state).2 ↔ state.Active id := by
  have empty : Numbered (∅ : AssocMap ClaimId NodeId) [] := by
    intro id node
    simp
  obtain ⟨numbered, member⟩ :=
    activeNodes_fold state.claims.entries (∅, []) empty state.claims.keys_nodup (by simp)
  refine ⟨numbered, fun id => ?_⟩
  rw [activeNodes, member]
  constructor
  · rintro (none | ⟨⟨key, claim⟩, entry, rfl, active⟩)
    · simp at none
    · exact ⟨claim, AssocMap.mem_entries_iff.mp entry, active⟩
  · rintro ⟨claim, found, active⟩
    exact Or.inr ⟨⟨id, claim⟩, AssocMap.mem_entries_iff.mpr found, rfl, active⟩

/-- Adding relations keeps the node count and adds the attacks between numbered claims. -/
theorem addRelations_spec (nodeMap : AssocMap ClaimId NodeId) (relations : List RelationState)
    (builder : GraphBuilder) :
    (relations.foldl (addRelation nodeMap) builder).nodeCount = builder.nodeCount ∧
      ∀ edge, edge ∈ (relations.foldl (addRelation nodeMap) builder).attacks ↔
        edge ∈ builder.attacks ∨ ∃ relation ∈ relations, relation.kind = .attacks ∧
          nodeMap.lookup relation.sourceId = some edge.1 ∧
          nodeMap.lookup relation.targetId = some edge.2 := by
  have step : ∀ (builder : GraphBuilder) (relation : RelationState),
      (addRelation nodeMap builder relation).nodeCount = builder.nodeCount ∧
        ∀ edge, edge ∈ (addRelation nodeMap builder relation).attacks ↔
          edge ∈ builder.attacks ∨ (relation.kind = .attacks ∧
            nodeMap.lookup relation.sourceId = some edge.1 ∧
            nodeMap.lookup relation.targetId = some edge.2) := by
    intro builder relation
    unfold addRelation
    split
    · rename_i srcNode tgtNode srcFound tgtFound
      split
      · rename_i kind
        refine ⟨rfl, fun edge => ?_⟩
        simp [GraphBuilder.attack, kind, srcFound, tgtFound, Prod.ext_iff, eq_comm]
      · rename_i kind
        exact ⟨rfl, fun edge => by simp [GraphBuilder.support, kind]⟩
    · rename_i missing
      refine ⟨rfl, fun edge => ?_⟩
      constructor
      · exact Or.inl
      · rintro (old | ⟨_, srcFound, tgtFound⟩)
        · exact old
        · exact absurd tgtFound (missing _ _ srcFound)
  induction relations generalizing builder with
  | nil => simp
  | cons relation rest ih =>
      obtain ⟨headCount, headEdges⟩ := step builder relation
      obtain ⟨restCount, restEdges⟩ := ih (addRelation nodeMap builder relation)
      rw [List.foldl_cons]
      refine ⟨restCount.trans headCount, fun edge => ?_⟩
      rw [restEdges, headEdges, List.exists_mem_cons_iff, or_assoc]

/-- The edges of the solver graph are the attacks between active claims. -/
theorem mem_graphBuilder_attacks (state : MaterializedState) (edge : NodeId × NodeId) :
    edge ∈ (graphBuilder state).attacks ↔
      ∃ source target, state.Attack source target ∧
        (activeNodes state).2[edge.1]? = some source ∧
        (activeNodes state).2[edge.2]? = some target := by
  obtain ⟨numbered, _⟩ := activeNodes_spec state
  rw [graphBuilder, (addRelations_spec _ _ _).2]
  constructor
  · rintro (initial | ⟨relation, member, kind, srcFound, tgtFound⟩)
    · simp [Graph.builder] at initial
    · refine ⟨relation.sourceId, relation.targetId, ⟨relation.author, ?_⟩,
        (numbered _ _).mp srcFound, (numbered _ _).mp tgtFound⟩
      rw [← kind]
      exact member
  · rintro ⟨source, target, ⟨author, member⟩, srcFound, tgtFound⟩
    exact Or.inr ⟨_, member, rfl, (numbered _ _).mpr srcFound, (numbered _ _).mpr tgtFound⟩

theorem graphBuilder_nodeCount (state : MaterializedState) :
    (graphBuilder state).nodeCount = (activeNodes state).2.length :=
  (addRelations_spec _ _ _).1

/-- The builder adds attacks between nodes of the graph only. -/
theorem graphBuilder_inRange (state : MaterializedState) : (graphBuilder state).InRange := by
  intro edge member
  obtain ⟨source, target, _, srcFound, tgtFound⟩ := (mem_graphBuilder_attacks state edge).mp member
  rw [graphBuilder_nodeCount]
  exact ⟨(List.getElem?_eq_some_iff.mp srcFound).1, (List.getElem?_eq_some_iff.mp tgtFound).1⟩

/-- The claim of a node. -/
def claimAt (index : List ClaimId) (node : NodeId) : ClaimId :=
  index.getD node default

/-- The claim of a node is the one at its place. -/
theorem claimAt_eq_of_getElem? {index : List ClaimId} {node : NodeId} {id : ClaimId}
    (found : index[node]? = some id) : claimAt index node = id := by
  rw [claimAt, List.getD_eq_getElem?_getD, found, Option.getD_some]

/-- Whatever the iteration order of the claims, the solver graph is the argumentation framework of
the log, its arguments renamed to node numbers. -/
theorem toGraph_isIso {log : List Entry} {state : MaterializedState} (rep : Represents log state) :
    Framework.IsIso (claimAt (activeNodes state).2) (graphBuilder state).framework
      (argumentFramework log) := by
  obtain ⟨numbered, member⟩ := activeNodes_spec state
  have atNode : ∀ node ∈ (graphBuilder state).framework.args,
      (activeNodes state).2[node]? = some (claimAt (activeNodes state).2 node) := by
    intro node inside
    have inside : node < (activeNodes state).2.length :=
      lt_of_lt_of_eq inside (graphBuilder_nodeCount state)
    obtain found := List.getElem?_eq_getElem inside
    rw [claimAt_eq_of_getElem? found, found]
  constructor
  · intro a aKnown b bKnown same
    exact numbered.inj (atNode a aKnown) (same ▸ atNode b bKnown)
  · ext id
    change _ ↔ id ∈ unresolvedClaims log
    rw [← rep.active_iff, ← member, List.mem_iff_getElem?]
    constructor
    · rintro ⟨node, known, rfl⟩
      exact ⟨node, atNode node known⟩
    · rintro ⟨node, found⟩
      refine ⟨node, ?_, claimAt_eq_of_getElem? found⟩
      exact lt_of_lt_of_eq (List.getElem?_eq_some_iff.mp found).1
        (graphBuilder_nodeCount state).symm
  · intro a aKnown b bKnown
    have active : ∀ node ∈ (graphBuilder state).framework.args,
        claimAt (activeNodes state).2 node ∈ unresolvedClaims log := by
      intro node known
      rw [← rep.active_iff, ← member]
      exact List.mem_of_getElem? (atNode node known)
    rw [(graphBuilder_inRange state).attacks_iff, mem_graphBuilder_attacks]
    constructor
    · rintro ⟨attack, _⟩
      exact ⟨_, _, (rep.attacks _ _).mpr attack, atNode a aKnown, atNode b bKnown⟩
    · rintro ⟨source, target, attack, srcFound, tgtFound⟩
      rw [← claimAt_eq_of_getElem? srcFound, ← claimAt_eq_of_getElem? tgtFound] at attack
      exact ⟨(rep.attacks _ _).mp attack, active a aKnown, active b bKnown⟩

end ProstheticConscience.Consensus
