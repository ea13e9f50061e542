/-
Module: ProstheticConscience.Consensus.Replay
Purpose: What a replayed log holds, read off the log itself: the first claim of every id, the last
  resolution after it, the last stance of every author, and the claims in order of appearance.
  Node numbers are natural numbers; a log with more claims than 32 bits count is outside the model.
Trusted boundary: none
Main exports: firstClaim, standingResolution, lastStance, claimOrder, Meaning, replay_meaning
-/
import Mathlib.Data.List.TakeWhile
import ProstheticConscience.Consensus.Reducer

namespace ProstheticConscience.Consensus

/-! ### Reading a log -/

/-- The entry is a claim with the given id. -/
def Entry.introduces (id : ClaimId) (entry : Entry) : Bool :=
  entry.claim?.any fun claim => decide (claim.id = id)

/-- The position that an entry gives an author on a claim. -/
def Entry.position? (target : ClaimId) (author : String) : Entry → Option Position
  | .stance targetId stanceAuthor position =>
      if targetId = target ∧ stanceAuthor = author then some position else none
  | _ => none

/-- The entry is a comment. -/
def Entry.isComment : Entry → Bool
  | .comment _ _ _ => true
  | _ => false

/-- The first claim of a log with the given id. -/
def firstClaim (log : List Entry) (id : ClaimId) : Option ClaimState :=
  log.findSome? fun entry => entry.claim?.filter fun claim => decide (claim.id = id)

/-- The log from the first claim with the given id on. -/
def fromFirstClaim (log : List Entry) (id : ClaimId) : List Entry :=
  log.dropWhile fun entry => !entry.introduces id

/-- The last resolution of a claim after its first introduction. -/
def standingResolution (log : List Entry) (id : ClaimId) : Option Resolution :=
  (fromFirstClaim log id).reverse.findSome? (·.resolution? id)

/-- The last position of an author on a claim. -/
def lastStance (log : List Entry) (target : ClaimId) (author : String) : Option Position :=
  log.reverse.findSome? (·.position? target author)

/-- The ids of the claims of a log, in order of first appearance. -/
def claimOrder (log : List Entry) : List ClaimId :=
  (log.filterMap fun entry => entry.claim?.map (·.id)).eraseDups

/-! ### A log that grows -/

theorem firstClaim_concat (log : List Entry) (entry : Entry) (id : ClaimId) :
    firstClaim (log ++ [entry]) id =
      (firstClaim log id).or (entry.claim?.filter fun claim => decide (claim.id = id)) := by
  rw [firstClaim, List.findSome?_append, List.findSome?_singleton]
  rfl

/-- A claim is introduced where its first claim stands. -/
theorem fromFirstClaim_eq_nil {log : List Entry} {id : ClaimId}
    (unknown : firstClaim log id = none) : fromFirstClaim log id = [] := by
  rw [fromFirstClaim, List.dropWhile_eq_nil_iff]
  intro entry member
  have none := List.findSome?_eq_none_iff.mp unknown entry member
  cases claim : entry.claim? with
  | none => simp [Entry.introduces, claim]
  | some claimed => simpa [Entry.introduces, claim, Option.filter_some] using none

theorem fromFirstClaim_concat_known {log : List Entry} {id : ClaimId} {claim : ClaimState}
    (known : firstClaim log id = some claim) (entry : Entry) :
    fromFirstClaim (log ++ [entry]) id = fromFirstClaim log id ++ [entry] := by
  rw [fromFirstClaim, List.dropWhile_append, if_neg, fromFirstClaim]
  rw [List.isEmpty_iff, List.dropWhile_eq_nil_iff]
  intro none
  obtain ⟨found, member, isClaim⟩ := List.exists_of_findSome?_eq_some known
  obtain ⟨claimed, isId⟩ := Option.filter_eq_some_iff.mp isClaim
  have absent := none found member
  rw [Entry.introduces, claimed] at absent
  simp [of_decide_eq_true isId] at absent

/-- No resolution stands before the claim. -/
theorem standingResolution_eq_none {log : List Entry} {id : ClaimId}
    (unknown : firstClaim log id = none) (entry : Entry) :
    standingResolution (log ++ [entry]) id = none := by
  have before := fromFirstClaim_eq_nil unknown
  have dropped : fromFirstClaim (log ++ [entry]) id =
      [entry].dropWhile fun entry => !entry.introduces id := by
    rw [fromFirstClaim] at before ⊢
    rw [List.dropWhile_append, before]
    rfl
  rw [standingResolution, dropped]
  cases entry with
  | claim claimId author body claimKind parentId =>
      by_cases same : claimId = id <;>
        simp [Entry.introduces, Entry.claim?, Entry.resolution?, same]
  | _ => simp [Entry.introduces, Entry.claim?]

theorem standingResolution_concat {log : List Entry} {id : ClaimId} {claim : ClaimState}
    (known : firstClaim log id = some claim) (entry : Entry) :
    standingResolution (log ++ [entry]) id =
      (entry.resolution? id).or (standingResolution log id) := by
  rw [standingResolution, fromFirstClaim_concat_known known, List.reverse_append,
    List.findSome?_append]
  simp [standingResolution]

theorem lastStance_concat (log : List Entry) (entry : Entry) (target : ClaimId)
    (author : String) :
    lastStance (log ++ [entry]) target author =
      (entry.position? target author).or (lastStance log target author) := by
  rw [lastStance, List.reverse_append, List.findSome?_append]
  simp [lastStance]

/-- A new id goes to the end of the order. -/
theorem claimOrder_concat (log : List Entry) (entry : Entry) :
    claimOrder (log ++ [entry]) =
      match entry.claim? with
      | some claim =>
          if claim.id ∈ claimOrder log then claimOrder log else claimOrder log ++ [claim.id]
      | none => claimOrder log := by
  have seen : ∀ id, id ∈ claimOrder log ↔ id ∈ log.filterMap fun entry => entry.claim?.map (·.id) :=
    fun _ => List.mem_eraseDups
  rw [claimOrder, List.filterMap_append, List.eraseDups_append]
  cases claim : entry.claim? with
  | none => simp [claim, claimOrder]
  | some claimed =>
      rw [List.filterMap_cons_some (b := claimed.id) (by simp [claim]), List.filterMap_nil]
      dsimp only
      by_cases known : claimed.id ∈ claimOrder log
      · have removed : [claimed.id].removeAll
            (log.filterMap fun entry => entry.claim?.map (·.id)) = [] := by
          simpa [List.removeAll] using (seen _).mp known
        rw [if_pos known, removed]
        simp [claimOrder]
      · have kept : [claimed.id].removeAll
            (log.filterMap fun entry => entry.claim?.map (·.id)) = [claimed.id] := by
          simpa [List.removeAll] using fun member => known ((seen _).mpr member)
        rw [if_neg known, kept]
        rfl

/-- The order names exactly the claims of the log. -/
theorem firstClaim_eq_none_iff {log : List Entry} {id : ClaimId} :
    firstClaim log id = none ↔ id ∉ claimOrder log := by
  rw [claimOrder, List.mem_eraseDups, List.mem_filterMap, firstClaim, List.findSome?_eq_none_iff]
  constructor
  · intro absent present
    obtain ⟨entry, member, isId⟩ := present
    obtain ⟨claim, claimed, rfl⟩ := Option.map_eq_some_iff.mp isId
    have none := absent entry member
    simp [claimed] at none
  · intro absent entry member
    apply Option.filter_eq_none_iff.mpr
    intro claim claimed isId
    exact absent ⟨entry, member, by rw [claimed, ← of_decide_eq_true isId]; rfl⟩

theorem Entry.resolution_claim? {entry : Entry} {claim : ClaimState}
    (claimed : entry.claim? = some claim) : claim.resolution = none := by
  cases entry with
  | claim claimId author body claimKind parentId =>
      obtain rfl := Option.some.inj claimed
      rfl
  | _ => cases claimed

/-! ### What a replayed state holds -/

/-- What a state holds, if it holds what the log says. -/
structure Meaning (log : List Entry) (state : MaterializedState) : Prop where
  /-- Every claim is as its first entry has it, with the resolution that stands. -/
  claims : ∀ id, state.claims.lookup id = (firstClaim log id).map fun claim =>
    { claim with resolution := standingResolution log id }
  /-- Every stance is the last one, and there are no others. -/
  stances : ∀ target author, state.stances.lookup (target, author) =
    (lastStance log target author).map fun position => { targetId := target, author, position }
  /-- The relations are those of the log, in order. -/
  relations : state.relations = log.filterMap (·.relation?)
  /-- Every claim is numbered by its place in the order of first appearance. -/
  nodes : Numbered state.nodeMap (claimOrder log)
  nextNodeId : state.nextNodeId = (claimOrder log).length

theorem Meaning.mem_claims {log : List Entry} {state : MaterializedState}
    (meaning : Meaning log state) {id : ClaimId} : id ∈ state.claims ↔ id ∈ claimOrder log := by
  rw [← not_iff_not, ← AList.lookup_eq_none, meaning.claims, Option.map_eq_none_iff,
    firstClaim_eq_none_iff]

theorem meaning_nil : Meaning [] (replay []) where
  claims _ := rfl
  stances _ _ := rfl
  relations := rfl
  nodes id node := by simp [replay, MaterializedState.new, claimOrder]
  nextNodeId := rfl

/-! ### One entry

The step lemma: `Replayed` says of each map what the log says, by first and last entries, and one
entry of each kind keeps it. -/

/-- Only a new claim gets a number, the next one. -/
theorem nodes_reduce (state : MaterializedState) (entry : Entry) :
    (reduce state entry).nodeMap =
        (match entry.claim? with
        | some claim =>
            if claim.id ∈ state.claims then state.nodeMap
            else state.nodeMap.update claim.id state.nextNodeId
        | none => state.nodeMap) ∧
      (reduce state entry).nextNodeId =
        match entry.claim? with
        | some claim =>
            if claim.id ∈ state.claims then state.nextNodeId else state.nextNodeId + 1
        | none => state.nextNodeId := by
  cases entry with
  | claim claimId author body claimKind parentId =>
      rw [reduce, Entry.claim?]
      dsimp only
      split <;> exact ⟨rfl, rfl⟩
  | resolve claimId author outcome =>
      rw [reduce]
      split <;> exact ⟨rfl, rfl⟩
  | _ => exact ⟨rfl, rfl⟩

/-! ### Whole logs

From the step lemma by induction on the log from its end. -/

theorem Meaning.concat {log : List Entry} {state : MaterializedState} (meaning : Meaning log state)
    (entry : Entry) : Meaning (log ++ [entry]) (reduce state entry) where
  claims id := by
    rw [lookup_claims_reduce, meaning.claims, firstClaim_concat]
    cases known : firstClaim log id with
    | some claim =>
        rw [standingResolution_concat known]
        rfl
    | none =>
        rw [standingResolution_eq_none known, Option.map_none, Option.none_or]
        dsimp only
        cases claimed : entry.claim? with
        | none => rfl
        | some claim =>
            have whole : { claim with resolution := none } = claim := by
              rw [← Entry.resolution_claim? claimed]
            rw [Option.filter_some]
            split
            · exact congrArg some whole.symm
            · rfl
  stances target author := by
    rw [stances_reduce, lastStance_concat, meaning.stances]
    cases entry with
    | stance targetId stanceAuthor position =>
        by_cases same : targetId = target ∧ stanceAuthor = author
        · simp [Entry.position?, same]
        · simp [Entry.position?, same]
    | _ => rfl
  relations := by
    rw [relations_reduce, meaning.relations, List.filterMap_append]
    cases relation : entry.relation? <;> simp [relation]
  nodes := by
    rw [(nodes_reduce state entry).1, claimOrder_concat]
    cases entry.claim? with
    | none => exact meaning.nodes
    | some claim =>
        dsimp only
        by_cases known : claim.id ∈ claimOrder log
        · rw [if_pos (meaning.mem_claims.mpr known), if_pos known]
          exact meaning.nodes
        · rw [if_neg fun member => known (meaning.mem_claims.mp member), if_neg known,
            meaning.nextNodeId]
          exact meaning.nodes.concat known
  nextNodeId := by
    rw [(nodes_reduce state entry).2, claimOrder_concat]
    cases entry.claim? with
    | none => exact meaning.nextNodeId
    | some claim =>
        dsimp only
        by_cases known : claim.id ∈ claimOrder log
        · rw [if_pos (meaning.mem_claims.mpr known), if_pos known]
          exact meaning.nextNodeId
        · rw [if_neg fun member => known (meaning.mem_claims.mp member), if_neg known,
            meaning.nextNodeId, List.length_append]
          rfl

theorem meaning_replay (log : List Entry) : Meaning log (replay log) := by
  induction log using List.reverseRecOn with
  | nil => exact meaning_nil
  | append_singleton log entry ih =>
      rw [replay_concat]
      exact ih.concat entry

/-- The number of a claim. -/
def MaterializedState.nodeOf (state : MaterializedState) (id : ClaimId) : NodeId :=
  (state.nodeMap.lookup id).getD 0

/-- The node map numbers the claims from zero on, each once. -/
theorem Meaning.bijOn {log : List Entry} {state : MaterializedState} (meaning : Meaning log state) :
    Set.BijOn state.nodeOf {id | id ∈ state.claims} (Set.Iio state.nextNodeId) := by
  have place : ∀ id, id ∈ state.claims →
      (claimOrder log)[state.nodeOf id]? = some id := by
    intro id member
    obtain ⟨node, atNode⟩ := List.mem_iff_getElem?.mp (meaning.mem_claims.mp member)
    rw [MaterializedState.nodeOf, (meaning.nodes id node).mpr atNode]
    exact atNode
  constructor
  · intro id member
    have inside := (List.getElem?_eq_some_iff.mp (place id member)).1
    exact lt_of_lt_of_eq inside meaning.nextNodeId.symm
  constructor
  · intro first firstMember second secondMember same
    have atFirst := place first firstMember
    rw [same, place second secondMember] at atFirst
    exact (Option.some.inj atFirst).symm
  · intro node inside
    have bound : node < (claimOrder log).length := lt_of_lt_of_eq inside meaning.nextNodeId
    have atNode := List.getElem?_eq_getElem bound
    refine ⟨(claimOrder log)[node], meaning.mem_claims.mpr (List.getElem_mem bound), ?_⟩
    rw [MaterializedState.nodeOf, (meaning.nodes _ node).mpr atNode]
    rfl

/-- Comments change nothing. -/
theorem replay_without_comments (log : List Entry) :
    replay (log.filter fun entry => !entry.isComment) = replay log := by
  induction log using List.reverseRecOn with
  | nil => rfl
  | append_singleton log entry ih =>
      rw [List.filter_append, replay_concat]
      cases entry with
      | comment claimId author body => simpa [Entry.isComment, reduce] using ih
      | _ => simpa [Entry.isComment, replay_concat] using congrArg (reduce · _) ih

/-- A resolved claim stays resolved. -/
theorem resolved_append {log : List Entry} {id : ClaimId} (resolved : (replay log).Resolved id)
    (more : List Entry) : (replay (log ++ more)).Resolved id := by
  induction more using List.reverseRecOn with
  | nil => rwa [List.append_nil]
  | append_singleton more entry ih =>
      rw [← List.append_assoc, replay_concat]
      exact resolved_reduce.mpr (.inl ih)

/-- The declarative meaning of `replay`: it holds the claims of the log as first introduced with
their standing resolutions, the last stances and all relations; the node map numbers the claims in
order of first appearance; comments change nothing, and no later entry reopens a claim. -/
theorem replay_meaning (log : List Entry) :
    Meaning log (replay log) ∧
      (∀ id, id ∈ (replay log).claims ↔ HasClaim log id) ∧
      (∀ id, id ∈ (replay log).nodeMap ↔ id ∈ (replay log).claims) ∧
      Set.BijOn (replay log).nodeOf {id | id ∈ (replay log).claims}
        (Set.Iio (replay log).nextNodeId) ∧
      replay (log.filter fun entry => !entry.isComment) = replay log ∧
      ∀ more id, (replay log).Resolved id → (replay (log ++ more)).Resolved id := by
  have meaning := meaning_replay log
  refine ⟨meaning, (replay_represents log).claims, ?_, meaning.bijOn, replay_without_comments log,
    fun more _ resolved => resolved_append resolved more⟩
  intro id
  rw [meaning.mem_claims, AssocMap.mem_iff_lookup, List.mem_iff_getElem?]
  exact exists_congr (meaning.nodes id)

/-- A claim that is introduced twice, resolved before and after, and two stances of one author. -/
example :
    let log : List Entry :=
      [.resolve ⟨"c"⟩ "a" .tabled, .claim ⟨"c"⟩ "a" "first" .item none, .stance ⟨"c"⟩ "b" .block,
        .resolve ⟨"c"⟩ "a" .accepted, .claim ⟨"c"⟩ "b" "second" .fact none,
        .stance ⟨"c"⟩ "b" .consent]
    (replay log).claims.lookup ⟨"c"⟩ = some
        { id := ⟨"c"⟩, author := "a", body := "first", kind := .item, parentId := none,
          resolution := some { outcome := .accepted, author := "a" } } ∧
      lastStance log ⟨"c"⟩ "b" = some .consent := by
  decide +kernel

end ProstheticConscience.Consensus
