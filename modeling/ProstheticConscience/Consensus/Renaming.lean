/-
Module: ProstheticConscience.Consensus.Renaming
Purpose: The pipeline commutes with an injective renaming of claim ids: replaying a renamed log
  gives the renamed state, and its statuses are the statuses of the original log.
Trusted boundary: none
Main exports: Entry.rename, IdsIn, MaterializedState.Renamed, replay_renamed, statuses_renamed
-/
import ProstheticConscience.Consensus.Status

namespace ProstheticConscience.Consensus

/-- Rename the claim ids of an entry. -/
def Entry.rename (f : ClaimId → ClaimId) : Entry → Entry
  | .claim claimId author body claimKind parentId =>
      .claim (f claimId) author body claimKind (parentId.map f)
  | .relation sourceId targetId kind author => .relation (f sourceId) (f targetId) kind author
  | .stance targetId author position => .stance (f targetId) author position
  | .resolve claimId author outcome => .resolve (f claimId) author outcome
  | .comment claimId author body => .comment (claimId.map f) author body

/-- The claim ids that occur in an entry. -/
def Entry.ids : Entry → List ClaimId
  | .claim claimId _ _ _ parentId => claimId :: parentId.toList
  | .relation sourceId targetId _ _ => [sourceId, targetId]
  | .stance targetId _ _ => [targetId]
  | .resolve claimId _ _ => [claimId]
  | .comment claimId _ _ => claimId.toList

def ClaimState.rename (f : ClaimId → ClaimId) (claim : ClaimState) : ClaimState :=
  { claim with id := f claim.id, parentId := claim.parentId.map f }

def RelationState.rename (f : ClaimId → ClaimId) (relation : RelationState) : RelationState :=
  { relation with sourceId := f relation.sourceId, targetId := f relation.targetId }

def StanceState.rename (f : ClaimId → ClaimId) (stance : StanceState) : StanceState :=
  { stance with targetId := f stance.targetId }

/-- Rename the key of a stance. -/
def renameStanceKey (f : ClaimId → ClaimId) (key : ClaimId × String) : ClaimId × String :=
  (f key.1, key.2)

/-- All claim ids of a log are in `S`. -/
def IdsIn (S : Set ClaimId) (log : List Entry) : Prop :=
  ∀ entry ∈ log, ∀ id ∈ entry.ids, id ∈ S

/-- An entry whose ids are kept is kept. -/
theorem rename_eq_self {f : ClaimId → ClaimId} {entry : Entry}
    (kept : ∀ id ∈ entry.ids, f id = id) : entry.rename f = entry := by
  have option : ∀ id? : Option ClaimId, (∀ id ∈ id?.toList, f id = id) → id?.map f = id? := by
    intro id? idsKept
    cases id? with
    | none => rfl
    | some id => simpa using idsKept
  cases entry with
  | claim claimId author body claimKind parentId =>
      have parentKept := option parentId fun id member => kept id (List.mem_cons_of_mem _ member)
      rw [Entry.rename, kept claimId List.mem_cons_self, parentKept]
  | relation sourceId targetId kind author =>
      rw [Entry.rename, kept sourceId (by simp [Entry.ids]), kept targetId (by simp [Entry.ids])]
  | stance targetId author position => rw [Entry.rename, kept targetId List.mem_cons_self]
  | resolve claimId author outcome => rw [Entry.rename, kept claimId List.mem_cons_self]
  | comment claimId author body => rw [Entry.rename, option claimId kept]

/-! ### Renamed states

Replaying a renamed log gives the renamed state: the reducer compares ids and stores them, and an
injective renaming keeps both. -/

/-- `after` is `before` with its claim ids renamed, its maps perhaps iterated in another order. -/
structure MaterializedState.Renamed (f : ClaimId → ClaimId) (before after : MaterializedState) :
    Prop where
  claims : AssocMap.Renamed f (ClaimState.rename f) before.claims after.claims
  relations : after.relations = before.relations.map (RelationState.rename f)
  stances : AssocMap.Renamed (renameStanceKey f) (StanceState.rename f) before.stances
    after.stances
  nodeMap : AssocMap.Renamed f id before.nodeMap after.nodeMap
  nextNodeId : after.nextNodeId = before.nextNodeId

/-- The keys of a state are in `S`. -/
structure MaterializedState.KeysIn (S : Set ClaimId) (state : MaterializedState) : Prop where
  claims : ∀ id ∈ state.claims, id ∈ S
  stances : ∀ key ∈ state.stances, key ∈ {key : ClaimId × String | key.1 ∈ S}
  nodeMap : ∀ id ∈ state.nodeMap, id ∈ S

/-- A renaming does not depend on the order of either state. -/
theorem MaterializedState.Renamed.reorder {f : ClaimId → ClaimId}
    {before before' after after' : MaterializedState} (renamed : before.Renamed f after)
    (beforeOrder : before.Reorder before') (afterOrder : after.Reorder after') :
    before'.Renamed f after' where
  claims := renamed.claims.of_same beforeOrder.claims afterOrder.claims
  relations := by rw [afterOrder.relations, beforeOrder.relations, renamed.relations]
  stances := renamed.stances.of_same beforeOrder.stances afterOrder.stances
  nodeMap := renamed.nodeMap.of_same beforeOrder.nodeMap afterOrder.nodeMap
  nextNodeId := by rw [afterOrder.nextNodeId, beforeOrder.nextNodeId, renamed.nextNodeId]

section Equivariance

variable {f : ClaimId → ClaimId} {S : Set ClaimId}

/-- Renaming claims keeps stances apart. -/
theorem renameStanceKey_injOn (inj : Set.InjOn f S) :
    Set.InjOn (renameStanceKey f) {key : ClaimId × String | key.1 ∈ S} := by
  intro first firstIn second secondIn same
  obtain ⟨sameName, sameAuthor⟩ := Prod.mk.inj same
  exact Prod.ext (inj firstIn secondIn sameName) sameAuthor

/-- An update with a known key adds no unknown one. -/
theorem mem_update_in {κ ν : Type} [DecidableEq κ] {S : Set κ} {m : AssocMap κ ν} {k : κ} {v : ν}
    (known : ∀ k ∈ m, k ∈ S) (inside : k ∈ S) : ∀ k' ∈ m.update k v, k' ∈ S := by
  intro k' member
  rcases AssocMap.mem_update.mp member with rfl | old
  · exact inside
  · exact known k' old

/-- One entry: reducing the renamed entry gives the renamed state. -/
theorem reduce_renamed (inj : Set.InjOn f S) {before after : MaterializedState} {entry : Entry}
    (idsIn : ∀ id ∈ entry.ids, id ∈ S) (known : before.KeysIn S)
    (renamed : before.Renamed f after) :
    (reduce before entry).KeysIn S ∧
      (reduce before entry).Renamed f (reduce after (entry.rename f)) := by
  cases entry with
  | claim claimId author body claimKind parentId =>
      have inside : claimId ∈ S := idsIn claimId List.mem_cons_self
      have lookup := renamed.claims.lookup_eq inj known.claims inside
      rw [Entry.rename, reduce, reduce]
      by_cases duplicate : claimId ∈ before.claims
      · have alsoDuplicate : f claimId ∈ after.claims := by
          obtain ⟨claim, found⟩ := AssocMap.mem_iff_lookup.mp duplicate
          apply AssocMap.mem_iff_lookup.mpr
          exact ⟨claim.rename f, by rw [lookup, found, Option.map_some]⟩
        rw [if_pos duplicate, if_pos alsoDuplicate]
        exact ⟨known, renamed⟩
      · have alsoNew : f claimId ∉ after.claims := by
          rw [← AList.lookup_eq_none] at duplicate ⊢
          rw [lookup, duplicate, Option.map_none]
        rw [if_neg duplicate, if_neg alsoNew]
        constructor
        · exact ⟨mem_update_in known.claims inside, known.stances,
            mem_update_in known.nodeMap inside⟩
        · constructor
          · exact renamed.claims.update inj known.claims inside _
          · exact renamed.relations
          · exact renamed.stances
          · rw [renamed.nextNodeId]
            exact renamed.nodeMap.update inj known.nodeMap inside _
          · exact congrArg (· + 1) renamed.nextNodeId
  | relation sourceId targetId kind author =>
      constructor
      · exact ⟨known.claims, known.stances, known.nodeMap⟩
      · constructor
        · exact renamed.claims
        · simp [reduce, Entry.rename, renamed.relations, RelationState.rename]
        · exact renamed.stances
        · exact renamed.nodeMap
        · exact renamed.nextNodeId
  | stance targetId author position =>
      have inside : (targetId, author) ∈ {key : ClaimId × String | key.1 ∈ S} :=
        idsIn targetId List.mem_cons_self
      constructor
      · exact ⟨known.claims, mem_update_in known.stances inside, known.nodeMap⟩
      · constructor
        · exact renamed.claims
        · exact renamed.relations
        · exact renamed.stances.update (renameStanceKey_injOn inj) known.stances inside _
        · exact renamed.nodeMap
        · exact renamed.nextNodeId
  | resolve claimId author outcome =>
      have inside : claimId ∈ S := idsIn claimId List.mem_cons_self
      have lookup := renamed.claims.lookup_eq inj known.claims inside
      rw [Entry.rename, reduce, reduce, lookup]
      cases found : before.claims.lookup claimId with
      | none => exact ⟨known, renamed⟩
      | some claim =>
          constructor
          · exact ⟨mem_update_in known.claims inside, known.stances, known.nodeMap⟩
          · constructor
            · exact renamed.claims.update inj known.claims inside _
            · exact renamed.relations
            · exact renamed.stances
            · exact renamed.nodeMap
            · exact renamed.nextNodeId
  | comment claimId author body => exact ⟨known, renamed⟩

/-- Replaying a renamed log gives the renamed state. -/
theorem replay_renamed (inj : Set.InjOn f S) {log : List Entry} (idsIn : IdsIn S log) :
    (replay log).Renamed f (replay (log.map (Entry.rename f))) := by
  have both : (replay log).KeysIn S ∧
      (replay log).Renamed f (replay (log.map (Entry.rename f))) := by
    induction log using List.reverseRecOn with
    | nil =>
        constructor
        · constructor <;> simp [replay, MaterializedState.new]
        · constructor <;> simp [replay, MaterializedState.new, AssocMap.Renamed]
    | append_singleton log entry ih =>
        have earlier : IdsIn S log := fun other member =>
          idsIn other (List.mem_append_left _ member)
        have here : ∀ id ∈ entry.ids, id ∈ S :=
          idsIn entry (List.mem_append_right _ (List.mem_singleton_self _))
        obtain ⟨known, renamed⟩ := ih earlier
        rw [List.map_append, List.map_singleton, replay_concat, replay_concat]
        exact reduce_renamed inj here known renamed
  exact both.2

/-! ### Renamed statuses

Statuses are read off the log by the meaning that was proved of them, and that meaning mentions ids
only to compare them. -/

/-- The ids of an entry are among those of its log. -/
theorem IdsIn.of_mem {log : List Entry} (idsIn : IdsIn S log) {entry : Entry}
    (member : entry ∈ log) {id : ClaimId} (occurs : id ∈ entry.ids) : id ∈ S :=
  idsIn entry member id occurs

/-- The ids of two logs are those of both. -/
theorem IdsIn.append {first second : List Entry} :
    IdsIn S (first ++ second) ↔ IdsIn S first ∧ IdsIn S second := by
  unfold IdsIn
  simp only [List.mem_append]
  constructor
  · intro all
    exact ⟨fun entry member => all entry (Or.inl member),
      fun entry member => all entry (Or.inr member)⟩
  · intro both entry member
    rcases member with inFirst | inSecond
    · exact both.1 entry inFirst
    · exact both.2 entry inSecond

/-- A claim of the log has a known id. -/
theorem hasClaim_mem {log : List Entry} (idsIn : IdsIn S log) {id : ClaimId}
    (introduced : HasClaim log id) : id ∈ S := by
  obtain ⟨author, body, kind, parent, member⟩ := introduced
  exact idsIn.of_mem member List.mem_cons_self

/-- Renaming keeps the claims of a log. -/
theorem hasClaim_rename (inj : Set.InjOn f S) {log : List Entry} (idsIn : IdsIn S log)
    {id : ClaimId} (inside : id ∈ S) :
    HasClaim (log.map (Entry.rename f)) (f id) ↔ HasClaim log id := by
  constructor
  · intro introduced
    obtain ⟨author, body, kind, parent, member⟩ := introduced
    obtain ⟨entry, entryMem, same⟩ := List.mem_map.mp member
    cases entry with
    | claim claimId author₀ body₀ kind₀ parent₀ =>
        simp only [Entry.rename, Entry.claim.injEq] at same
        have sameId := inj (idsIn.of_mem entryMem List.mem_cons_self) inside same.1
        exact ⟨author₀, body₀, kind₀, parent₀, sameId ▸ entryMem⟩
    | _ => cases same
  · intro introduced
    obtain ⟨author, body, kind, parent, member⟩ := introduced
    exact ⟨author, body, kind, parent.map f, List.mem_map.mpr ⟨_, member, rfl⟩⟩

/-- Renaming keeps the resolve entries of a log. -/
theorem hasResolve_rename (inj : Set.InjOn f S) {log : List Entry} (idsIn : IdsIn S log)
    {id : ClaimId} (inside : id ∈ S) :
    HasResolve (log.map (Entry.rename f)) (f id) ↔ HasResolve log id := by
  constructor
  · intro resolution
    obtain ⟨author, outcome, member⟩ := resolution
    obtain ⟨entry, entryMem, same⟩ := List.mem_map.mp member
    cases entry with
    | resolve claimId author₀ outcome₀ =>
        simp only [Entry.rename, Entry.resolve.injEq] at same
        have sameId := inj (idsIn.of_mem entryMem List.mem_cons_self) inside same.1
        exact ⟨author₀, outcome₀, sameId ▸ entryMem⟩
    | _ => cases same
  · intro resolution
    obtain ⟨author, outcome, member⟩ := resolution
    exact ⟨author, outcome, List.mem_map.mpr ⟨_, member, rfl⟩⟩

/-- Renaming keeps the attacks of a log. -/
theorem hasAttack_rename (inj : Set.InjOn f S) {log : List Entry} (idsIn : IdsIn S log)
    {source target : ClaimId} (sourceIn : source ∈ S) (targetIn : target ∈ S) :
    HasAttack (log.map (Entry.rename f)) (f source) (f target) ↔ HasAttack log source target := by
  constructor
  · intro attack
    obtain ⟨author, member⟩ := attack
    obtain ⟨entry, entryMem, same⟩ := List.mem_map.mp member
    cases entry with
    | relation sourceId targetId kind author₀ =>
        simp only [Entry.rename, Entry.relation.injEq] at same
        obtain ⟨sameSource, sameTarget, rfl, rfl⟩ := same
        have sourceEq := inj (idsIn.of_mem entryMem List.mem_cons_self) sourceIn sameSource
        have targetEq := inj (idsIn.of_mem entryMem (by simp [Entry.ids])) targetIn sameTarget
        subst sourceEq targetEq
        exact ⟨author₀, entryMem⟩
    | _ => cases same
  · intro attack
    obtain ⟨author, member⟩ := attack
    exact ⟨author, List.mem_map.mpr ⟨_, member, rfl⟩⟩

/-- Renaming keeps the resolved claims of a log. -/
theorem isResolved_rename (inj : Set.InjOn f S) {log : List Entry} (idsIn : IdsIn S log)
    {id : ClaimId} (inside : id ∈ S) :
    IsResolved (log.map (Entry.rename f)) (f id) ↔ IsResolved log id := by
  constructor
  · intro resolved
    obtain ⟨before', after', split, introduced, resolution⟩ := resolved
    obtain ⟨before, after, rfl, rfl, rfl⟩ := List.map_eq_append_iff.mp split
    obtain ⟨beforeIn, afterIn⟩ := IdsIn.append.mp idsIn
    exact ⟨before, after, rfl, (hasClaim_rename inj beforeIn inside).mp introduced,
      (hasResolve_rename inj afterIn inside).mp resolution⟩
  · intro resolved
    obtain ⟨before, after, rfl, introduced, resolution⟩ := resolved
    obtain ⟨beforeIn, afterIn⟩ := IdsIn.append.mp idsIn
    exact ⟨_, _, List.map_append, (hasClaim_rename inj beforeIn inside).mpr introduced,
      (hasResolve_rename inj afterIn inside).mpr resolution⟩

/-- A renamed stance is the stance on the renamed claim. -/
theorem rename_eq_stance (inj : Set.InjOn f S) {entry : Entry} (idsIn : ∀ id ∈ entry.ids, id ∈ S)
    {target : ClaimId} (inside : target ∈ S) {author : String} {position : Position} :
    entry.rename f = .stance (f target) author position ↔
      entry = .stance target author position := by
  constructor
  · intro same
    cases entry with
    | stance targetId author₀ position₀ =>
        simp only [Entry.rename, Entry.stance.injEq] at same
        rw [inj (idsIn targetId List.mem_cons_self) inside same.1, same.2.1, same.2.2]
    | _ => cases same
  · intro same
    rw [same, Entry.rename]

/-- Renaming keeps the latest stances of a log. -/
theorem latestStance_rename (inj : Set.InjOn f S) {log : List Entry} (idsIn : IdsIn S log)
    {target : ClaimId} (inside : target ∈ S) {author : String} {position : Position} :
    LatestStance (log.map (Entry.rename f)) (f target) author position ↔
      LatestStance log target author position := by
  induction log using List.reverseRecOn with
  | nil => simp [LatestStance]
  | append_singleton log entry ih =>
      obtain ⟨earlierIn, entryIn⟩ := IdsIn.append.mp idsIn
      have here := entryIn entry (List.mem_singleton_self _)
      rw [List.map_append, List.map_singleton, latestStance_concat, latestStance_concat,
        ih earlierIn, rename_eq_stance inj here inside]
      simp only [ne_eq, rename_eq_stance inj here inside]

/-- Renaming keeps the unresolved claims of a log. -/
theorem mem_unresolvedClaims_rename (inj : Set.InjOn f S) {log : List Entry}
    (idsIn : IdsIn S log) {id : ClaimId} (inside : id ∈ S) :
    f id ∈ unresolvedClaims (log.map (Entry.rename f)) ↔ id ∈ unresolvedClaims log := by
  unfold unresolvedClaims
  simp only [Set.mem_ofPred_eq, hasClaim_rename inj idsIn inside,
    isResolved_rename inj idsIn inside]

/-- Every claim of a renamed log is the new name of a claim of the log. -/
theorem exists_of_hasClaim_rename {log : List Entry} {id' : ClaimId}
    (introduced : HasClaim (log.map (Entry.rename f)) id') :
    ∃ id, HasClaim log id ∧ f id = id' := by
  obtain ⟨author, body, kind, parent, member⟩ := introduced
  obtain ⟨entry, entryMem, same⟩ := List.mem_map.mp member
  cases entry with
  | claim claimId author₀ body₀ kind₀ parent₀ =>
      simp only [Entry.rename, Entry.claim.injEq] at same
      exact ⟨claimId, ⟨author₀, body₀, kind₀, parent₀, entryMem⟩, same.1⟩
  | _ => cases same

/-- The argumentation framework of a renamed log is the renamed framework. -/
theorem argumentFramework_isIso (inj : Set.InjOn f S) {log : List Entry} (idsIn : IdsIn S log) :
    Framework.IsIso f (argumentFramework log)
      (argumentFramework (log.map (Entry.rename f))) := by
  have unresolvedIn : ∀ {id}, id ∈ unresolvedClaims log → id ∈ S :=
    fun unresolved => hasClaim_mem idsIn unresolved.1
  constructor
  · intro first firstIn second secondIn same
    exact inj (unresolvedIn firstIn) (unresolvedIn secondIn) same
  · ext id'
    constructor
    · intro image
      obtain ⟨id, unresolved, rfl⟩ := image
      exact (mem_unresolvedClaims_rename inj idsIn (unresolvedIn unresolved)).mpr unresolved
    · intro unresolved
      obtain ⟨id, introduced, rfl⟩ := exists_of_hasClaim_rename unresolved.1
      have inside := hasClaim_mem idsIn introduced
      exact ⟨id, (mem_unresolvedClaims_rename inj idsIn inside).mp unresolved, rfl⟩
  · intro source sourceIn target targetIn
    change HasAttack _ _ _ ∧ _ ∧ _ ↔ HasAttack _ _ _ ∧ _ ∧ _
    rw [hasAttack_rename inj idsIn (unresolvedIn sourceIn) (unresolvedIn targetIn),
      mem_unresolvedClaims_rename inj idsIn (unresolvedIn sourceIn),
      mem_unresolvedClaims_rename inj idsIn (unresolvedIn targetIn)]

open Classical in
/-- A renamed log gives the renamed claim the same status. -/
theorem semanticStatus_rename (inj : Set.InjOn f S) {log : List Entry} (idsIn : IdsIn S log)
    {id : ClaimId} (unresolved : id ∈ unresolvedClaims log) :
    semanticStatus (log.map (Entry.rename f)) (f id) = semanticStatus log id := by
  have iso := argumentFramework_isIso inj idsIn
  have inside := hasClaim_mem idsIn unresolved.1
  unfold semanticStatus
  simp only [iso.mem_attackedBy_grounded_iff unresolved, iso.mem_grounded_iff unresolved,
    latestStance_rename inj idsIn inside]

/-- The statuses of a renamed log are the renamed statuses, whatever the iteration orders. -/
theorem statuses_renamed (inj : Set.InjOn f S) {log : List Entry} (idsIn : IdsIn S log)
    {before after : MaterializedState} (beforeRep : Represents log before)
    (afterRep : Represents (log.map (Entry.rename f)) after) :
    AssocMap.Renamed f id (statuses before) (statuses after) := by
  have domain : ∀ {log state}, Represents log state → ∀ {id : ClaimId},
      id ∈ statuses state ↔ id ∈ unresolvedClaims log := by
    intro log state rep id
    simp [AssocMap.mem_iff_lookup, lookup_statuses rep]
  have unresolvedIn : ∀ {id}, id ∈ unresolvedClaims log → id ∈ S :=
    fun unresolved => hasClaim_mem idsIn unresolved.1
  apply AssocMap.renamed_of_lookup inj
  · intro id member
    exact unresolvedIn ((domain beforeRep).mp member)
  · intro id inside
    ext status
    rw [lookup_statuses afterRep, mem_unresolvedClaims_rename inj idsIn inside, Option.map_id,
      id_eq, lookup_statuses beforeRep]
    apply and_congr_right
    intro unresolved
    rw [semanticStatus_rename inj idsIn unresolved]
  · intro id' member
    obtain ⟨id, introduced, same⟩ :=
      exists_of_hasClaim_rename ((domain afterRep).mp member).1
    exact ⟨id, hasClaim_mem idsIn introduced, same⟩

end Equivariance

end ProstheticConscience.Consensus
