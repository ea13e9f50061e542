/-
Module: ProstheticConscience.Consensus.RenderOrder
Purpose: What the iteration order of the hash maps can change in the rendering of a log: the order
  of the blockers of a contested claim, and nothing else.
Trusted boundary: none
Main exports: listedGroups, buildClaimSummary_reorder, claimDetail_reorder, blockers,
  BlockersAlike, ListedApart, OrderIndependent, Materialized, RenderedAlike,
  overview_order_independent_iff
-/
import ProstheticConscience.Consensus.BrowserConversation
import ProstheticConscience.Consensus.LlmTurn
import ProstheticConscience.Library.Sorting
import Mathlib.Data.Prod.Lex

namespace ProstheticConscience.Consensus

/-! ### Stances by position -/

/-- Sorting names forgets the order they came in. -/
theorem sortedNames_eq_of_perm {names others : List String} (perm : names.Perm others) :
    sortedNames names = sortedNames others :=
  sortOn_eq_of_perm id perm fun _ _ _ _ same => same

/-- No two positions have one rank. -/
theorem Position.rank_injective : Function.Injective Position.rank := by
  intro a b same
  cases a <;> cases b <;> first | rfl | cases same

/-- The groups of a map as a summary lists them. -/
def listedGroups (groups : AssocMap Position (List String)) : List StanceSummary :=
  sortOn (·.position.rank)
    (groups.entries.map fun group => { position := group.1, authors := sortedNames group.2 })

/-- The order of the groups and of the names in a group does not show. -/
theorem listedGroups_eq {groups others : AssocMap Position (List String)}
    (alike : ∀ position, (groups.lookup position).map sortedNames =
      (others.lookup position).map sortedNames) :
    listedGroups groups = listedGroups others := by
  have same : AssocMap.Same (groups.mapValues sortedNames) (others.mapValues sortedNames) := by
    apply AssocMap.same_of_lookup_eq
    intro position
    rw [AssocMap.lookup_mapValues, AssocMap.lookup_mapValues, alike]
  have perm : (groups.entries.map fun group =>
        ({ position := group.1, authors := sortedNames group.2 } : StanceSummary)).Perm
      (others.entries.map fun group =>
        { position := group.1, authors := sortedNames group.2 }) := by
    have mapped := List.Perm.map
      (fun group => ({ position := group.1, authors := group.2 } : StanceSummary)) same
    simpa only [AssocMap.mapValues, List.map_map, Function.comp_def] using mapped
  apply sortOn_eq_of_perm _ perm
  intro a aMember b bMember sameRank
  obtain ⟨⟨position, names⟩, here, rfl⟩ := List.mem_map.mp aMember
  obtain ⟨⟨position', names'⟩, there, rfl⟩ := List.mem_map.mp bMember
  obtain rfl : position = position' := Position.rank_injective sameRank
  have sameNames :=
    (AssocMap.mem_entries_iff.mp here).symm.trans (AssocMap.mem_entries_iff.mp there)
  rw [Option.some.inj sameNames]

/-- The authors listed under a position are those of the stances with it. -/
theorem lookup_positionAuthors (claimId : ClaimId) (state : MaterializedState)
    (position : Position) :
    (positionAuthors claimId state).lookup position =
      if (stancesOn state claimId).filter (fun stance => decide (stance.position = position)) = []
      then none
      else some (((stancesOn state claimId).filter fun stance =>
        decide (stance.position = position)).map (·.author)) :=
  AssocMap.lookup_foldl_group StanceState.position StanceState.author (stancesOn state claimId) ∅
    position

section Reordered

variable {state other : MaterializedState}
  {statuses otherStatuses : AssocMap ClaimId EpistemicStatus}

/-- In another order a claim has the same stances. -/
theorem MaterializedState.Reorder.stancesOn_perm (reorder : state.Reorder other)
    (claimId : ClaimId) : (stancesOn state claimId).Perm (stancesOn other claimId) :=
  reorder.stances.values_perm.filter _

/-- In another order a position has the same authors, once they are sorted. -/
theorem lookup_positionAuthors_reorder (reorder : state.Reorder other) (claimId : ClaimId)
    (position : Position) :
    ((positionAuthors claimId other).lookup position).map sortedNames =
      ((positionAuthors claimId state).lookup position).map sortedNames := by
  have perm := (reorder.stancesOn_perm claimId).filter fun stance =>
    decide (stance.position = position)
  rw [lookup_positionAuthors, lookup_positionAuthors]
  split
  · rename_i noneHeld
    rw [noneHeld, List.perm_nil] at perm
    rw [if_pos perm]
  · rename_i someHeld
    have held : (stancesOn state claimId).filter
        (fun stance => decide (stance.position = position)) ≠ [] := by
      intro noneHeld
      rw [noneHeld, List.nil_perm] at perm
      exact someHeld perm
    rw [if_neg held, Option.map_some, Option.map_some, sortedNames_eq_of_perm (perm.map _)]

/-! ### Claims -/

/-- The summary of a claim does not depend on the order. -/
theorem buildClaimSummary_reorder (reorder : state.Reorder other)
    (sameStatuses : AssocMap.Same statuses otherStatuses) (claim : ClaimState) :
    buildClaimSummary claim otherStatuses other = buildClaimSummary claim statuses state := by
  have stances : listedGroups (positionAuthors claim.id other) =
      listedGroups (positionAuthors claim.id state) :=
    listedGroups_eq (lookup_positionAuthors_reorder reorder claim.id)
  rw [buildClaimSummary, buildClaimSummary, sameStatuses.lookup_eq]
  exact congrArg (ClaimSummary.mk _ _ _ _ _ · _ _) stances

/-- The detailed view of a claim does not depend on the iteration order. -/
theorem claimDetail_reorder (reorder : state.Reorder other)
    (sameStatuses : AssocMap.Same statuses otherStatuses) (claimId : ClaimId) :
    claimDetail other otherStatuses claimId = claimDetail state statuses claimId := by
  unfold claimDetail
  simp only [reorder.relations, reorder.claims.lookup_eq,
    buildClaimSummary_reorder reorder sameStatuses]

/-! ### Lists of claims

A list is sorted by a key; two orders of iteration give one list exactly when no two of its claims
have the same key. -/

def ClaimState.isOpen (kind : ClaimKind) (claim : ClaimState) : Bool :=
  claim.resolution.isNone && decide (claim.kind = kind)

def ClaimState.isResolved (claim : ClaimState) : Bool :=
  claim.resolution.isSome

/-- The claims of one list of the overview. -/
def listedClaims (category : ClaimState → Bool) (state : MaterializedState)
    (statuses : AssocMap ClaimId EpistemicStatus) : List ClaimSummary :=
  sortOn (·.id.value) ((state.claims.values.filter category).map fun claim =>
    buildClaimSummary claim statuses state)

/-- The claims in one list carry different ids. -/
def KeptApart (category : ClaimState → Bool) (state : MaterializedState) : Prop :=
  ∀ a ∈ state.claims.values, ∀ b ∈ state.claims.values, category a = true → category b = true →
    a.id = b.id → a = b

/-- A summary tells the whole claim. -/
theorem buildClaimSummary_injective {a b : ClaimState}
    (same : buildClaimSummary a statuses state = buildClaimSummary b statuses state) : a = b := by
  cases a
  cases b
  simp only [buildClaimSummary, ClaimSummary.mk.injEq] at same
  simp [same]

/-- What a list shows under one id, in the order of iteration. -/
theorem listedClaims_filter (category : ClaimState → Bool) (state : MaterializedState)
    (statuses : AssocMap ClaimId EpistemicStatus) (claimId : ClaimId) :
    (listedClaims category state statuses).filter
        (fun summary => decide (summary.id.value = claimId.value)) =
      state.claims.values.filterMap fun claim =>
        if category claim = true ∧ claim.id = claimId then
          some (buildClaimSummary claim statuses state)
        else none := by
  rw [listedClaims, filter_sortOn, List.filter_map, List.filter_filter, ← List.filterMap_eq_map,
    List.filterMap_filter]
  simp [buildClaimSummary, ClaimId.value_injective.eq_iff, and_comm]

/-- A list of claims is the same in every order exactly when it lists no two claims that sort alike.
-/
theorem listedClaims_alike_iff (statuses : AssocMap ClaimId EpistemicStatus)
    (category : ClaimState → Bool) :
    (∀ other otherStatuses, state.Reorder other → AssocMap.Same statuses otherStatuses →
      listedClaims category other otherStatuses = listedClaims category state statuses) ↔
        KeptApart category state := by
  constructor
  · intro alike a aMember b bMember aListed bListed sameId
    let shown : ClaimState → Option ClaimSummary := fun claim =>
      if category claim = true ∧ claim.id = b.id then some (buildClaimSummary claim statuses state)
      else none
    have arranged : ∀ claims, AssocMap.Same state.claims claims →
        claims.values.filterMap shown = state.claims.values.filterMap shown := by
      intro claims same
      have reorder : state.Reorder { state with claims } :=
        ⟨same, rfl, .refl _, .refl _, rfl⟩
      have lists := alike { state with claims } statuses reorder (.refl _)
      have underId := congrArg
        (List.filter fun summary => decide (summary.id.value = b.id.value)) lists
      rw [listedClaims_filter, listedClaims_filter] at underId
      simpa only [buildClaimSummary_reorder reorder (.refl statuses)] using underId
    have same := AssocMap.filterMap_values_alike_iff.mp arranged
    have aShown : buildClaimSummary a statuses state ∈ state.claims.values.filterMap shown :=
      List.mem_filterMap.mpr ⟨a, aMember, if_pos ⟨aListed, sameId⟩⟩
    have bShown : buildClaimSummary b statuses state ∈ state.claims.values.filterMap shown :=
      List.mem_filterMap.mpr ⟨b, bMember, if_pos ⟨bListed, rfl⟩⟩
    exact buildClaimSummary_injective (same _ aShown _ bShown)
  · intro apart other otherStatuses reorder sameStatuses
    have summaries : (other.claims.values.filter category).map
          (fun claim => buildClaimSummary claim otherStatuses other) =
        (other.claims.values.filter category).map
          fun claim => buildClaimSummary claim statuses state := by
      simp only [buildClaimSummary_reorder reorder sameStatuses]
    rw [listedClaims, listedClaims, summaries]
    symm
    apply sortOn_eq_of_perm _ ((reorder.claims.values_perm.filter _).map _)
    intro a aMember b bMember sameKey
    obtain ⟨claim, here, rfl⟩ := List.mem_map.mp aMember
    obtain ⟨claim', there, rfl⟩ := List.mem_map.mp bMember
    obtain ⟨inMap, listed⟩ := List.mem_filter.mp here
    obtain ⟨inMap', listed'⟩ := List.mem_filter.mp there
    rw [apart claim inMap claim' inMap' listed listed' (ClaimId.value_injective sameKey)]

/-! ### Signals -/

/-- Who blocks a claim or objects to it, in the order of iteration. -/
def blockers (state : MaterializedState) (claimId : ClaimId) : List String :=
  ((stancesOn state claimId).filter (·.position.isNegative)).map (·.author)

/-- Whoever blocks a claim or objects to it has the same name. -/
def OneBlocker (state : MaterializedState) (claimId : ClaimId) : Prop :=
  ∀ a ∈ state.stances.values, ∀ b ∈ state.stances.values,
    a.targetId = claimId → b.targetId = claimId →
      a.position.isNegative = true → b.position.isNegative = true → a.author = b.author

/-- Every contested claim has one blocker at most. -/
def BlockersAlike (state : MaterializedState) (statuses : AssocMap ClaimId EpistemicStatus) :
    Prop :=
  ∀ claimId ∈ state.claims, statuses.lookup claimId = some .contested → OneBlocker state claimId

/-- The blockers of a claim are the authors of its negative stances. -/
theorem mem_blockers {state : MaterializedState} {claimId : ClaimId} {name : String} :
    name ∈ blockers state claimId ↔ ∃ stance ∈ state.stances.values,
      stance.targetId = claimId ∧ stance.position.isNegative = true ∧ stance.author = name := by
  simp [blockers, stancesOn, and_assoc, and_left_comm]

/-- A claim has one blocker at most exactly when all its blockers are equal. -/
theorem oneBlocker_iff {state : MaterializedState} {claimId : ClaimId} :
    OneBlocker state claimId ↔
      ∀ a ∈ blockers state claimId, ∀ b ∈ blockers state claimId, a = b := by
  constructor
  · intro one a aMember b bMember
    obtain ⟨stance, held, onClaim, negative, rfl⟩ := mem_blockers.mp aMember
    obtain ⟨stance', held', onClaim', negative', rfl⟩ := mem_blockers.mp bMember
    exact one stance held stance' held' onClaim onClaim' negative negative'
  · intro alike a held b held' onClaim onClaim' negative negative'
    exact alike _ (mem_blockers.mpr ⟨a, held, onClaim, negative, rfl⟩) _
      (mem_blockers.mpr ⟨b, held', onClaim', negative', rfl⟩)

/-- The blockers, in the order of the stances. -/
theorem blockers_eq (state : MaterializedState) (claimId : ClaimId) :
    blockers state claimId = state.stances.values.filterMap fun stance =>
      if stance.targetId = claimId ∧ stance.position.isNegative = true then some stance.author
      else none := by
  rw [blockers, stancesOn, List.filter_filter, ← List.filterMap_eq_map, List.filterMap_filter]
  simp [and_comm]

/-- The blockers are told alike for every order of iteration exactly if they have one name. -/
theorem blockers_alike_iff (state : MaterializedState) (claimId : ClaimId) :
    (∀ other, state.Reorder other → blockers other claimId = blockers state claimId) ↔
      OneBlocker state claimId := by
  rw [oneBlocker_iff]
  simp only [blockers_eq]
  rw [← AssocMap.filterMap_values_alike_iff]
  constructor
  · intro alike stances same
    exact alike { state with stances } ⟨.refl _, rfl, same, .refl _, rfl⟩
  · intro alike other reorder
    exact alike other.stances reorder.stances

/-- The signal of a contested claim names its blockers in the order of the stances. -/
theorem attentionSignal?_contested {claimId : ClaimId} {status : EpistemicStatus} {body : String}
    {names : List String} {subject : ClaimId} :
    attentionSignal? state claimId status = some (.contested subject body names) ↔
      status = .contested ∧ subject = claimId ∧ names = blockers state claimId ∧
        ∃ claim, state.claims.lookup claimId = some claim ∧ claim.body = body := by
  rw [attentionSignal?]
  cases state.claims.lookup claimId with
  | none => simp
  | some claim => cases status <;> simp [blockers, eq_comm, and_left_comm, and_comm]

/-- A signal is sorted by the claim that it is about. -/
theorem sortKey_attentionSignal? {claimId : ClaimId} {status : EpistemicStatus}
    {signal : AttentionSignal} (raised : attentionSignal? state claimId status = some signal) :
    signal.sortKey.2 = claimId.value := by
  rw [attentionSignal?] at raised
  cases found : state.claims.lookup claimId with
  | none =>
      rw [found] at raised
      cases raised
  | some claim =>
      rw [found] at raised
      cases status <;> cases raised <;> rfl

/-- Signals other than of contested claims do not depend on the order. -/
theorem attentionSignal?_reorder (reorder : state.Reorder other) {claimId : ClaimId}
    {status : EpistemicStatus}
    (alike : claimId ∈ state.claims → status = .contested →
      blockers other claimId = blockers state claimId) :
    attentionSignal? other claimId status = attentionSignal? state claimId status := by
  rw [attentionSignal?, attentionSignal?, ← reorder.claims.lookup_eq]
  cases found : state.claims.lookup claimId with
  | none => rfl
  | some claim =>
      cases status with
      | contested =>
          have sameNames := alike (AssocMap.mem_iff_lookup.mpr ⟨claim, found⟩) rfl
          exact congrArg (fun names => some (AttentionSignal.contested claimId claim.body names))
            sameNames
      | _ => rfl

/-- The signals are sorted by kind and claim. -/
theorem buildAttentionSignals_eq (state : MaterializedState)
    (statuses : AssocMap ClaimId EpistemicStatus) :
    buildAttentionSignals state statuses = sortOn (fun signal => toLex signal.sortKey)
      (statuses.entries.filterMap fun entry => attentionSignal? state entry.1 entry.2) := by
  have before : AttentionSignal.sortsBefore =
      fun a b => decide (toLex a.sortKey ≤ toLex b.sortKey) := by
    funext a b
    rw [AttentionSignal.sortsBefore, ← Bool.decide_and, ← Bool.decide_or]
    exact decide_eq_decide.mpr Prod.Lex.toLex_le_toLex.symm
  rw [buildAttentionSignals, before]
  rfl

/-- A contested claim is signalled with its blockers. -/
theorem contested_mem_attention {claimId : ClaimId} {body : String} {names : List String} :
    .contested claimId body names ∈ buildAttentionSignals state statuses ↔
      statuses.lookup claimId = some .contested ∧ names = blockers state claimId ∧
        ∃ claim, state.claims.lookup claimId = some claim ∧ claim.body = body := by
  rw [buildAttentionSignals_eq, mem_sortOn, List.mem_filterMap]
  constructor
  · rintro ⟨⟨signalled, status⟩, member, raised⟩
    obtain ⟨rfl, rfl, told, found⟩ := attentionSignal?_contested.mp raised
    exact ⟨AssocMap.mem_entries_iff.mp member, told, found⟩
  · rintro ⟨contested, told, found⟩
    exact ⟨⟨claimId, .contested⟩, AssocMap.mem_entries_iff.mpr contested,
      attentionSignal?_contested.mpr ⟨rfl, rfl, told, found⟩⟩

/-- The signals are the same for every order of iteration exactly if those who block one contested
claim have one name. -/
theorem attention_alike_iff :
    (∀ other otherStatuses, state.Reorder other → AssocMap.Same statuses otherStatuses →
      buildAttentionSignals other otherStatuses = buildAttentionSignals state statuses) ↔
        BlockersAlike state statuses := by
  constructor
  · intro alike claimId known contested
    obtain ⟨claim, found⟩ := AssocMap.mem_iff_lookup.mp known
    apply (blockers_alike_iff state claimId).mp
    intro other reorder
    have signalled : .contested claimId claim.body (blockers state claimId) ∈
        buildAttentionSignals state statuses :=
      contested_mem_attention.mpr ⟨contested, rfl, claim, found, rfl⟩
    rw [← alike other statuses reorder (.refl _)] at signalled
    exact (contested_mem_attention.mp signalled).2.1.symm
  · intro alike other otherStatuses reorder sameStatuses
    have raisedAlike : otherStatuses.entries.filterMap
          (fun entry => attentionSignal? other entry.1 entry.2) =
        otherStatuses.entries.filterMap fun entry => attentionSignal? state entry.1 entry.2 := by
      apply List.filterMap_congr
      intro entry member
      apply attentionSignal?_reorder reorder
      intro known contested
      have found := AssocMap.mem_entries_iff.mp member
      rw [← sameStatuses.lookup_eq, contested] at found
      exact (blockers_alike_iff state entry.1).mpr (alike entry.1 known found) other reorder
    rw [buildAttentionSignals_eq, buildAttentionSignals_eq, raisedAlike]
    symm
    apply sortOn_eq_of_perm _ (List.Perm.filterMap _ sameStatuses)
    intro a aMember b bMember sameKey
    obtain ⟨⟨claimId, status⟩, here, raised⟩ := List.mem_filterMap.mp aMember
    obtain ⟨⟨claimId', status'⟩, there, raised'⟩ := List.mem_filterMap.mp bMember
    have sameId : claimId.value = claimId'.value := by
      rw [← sortKey_attentionSignal? raised, ← sortKey_attentionSignal? raised',
        toLex.injective sameKey]
    obtain rfl := ClaimId.value_injective sameId
    have sameStatus := (AssocMap.mem_entries_iff.mp here).symm.trans
      (AssocMap.mem_entries_iff.mp there)
    rw [← Option.some.inj sameStatus, raised] at raised'
    exact Option.some.inj raised'

end Reordered

/-! ### The rendering of a state -/

/-- In each list of the overview the claims carry different ids, as they do when every claim is
stored under its own id. -/
structure ListedApart (state : MaterializedState) : Prop where
  items : KeptApart (·.isOpen .item) state
  proposals : KeptApart (·.isOpen .proposal) state
  resolved : KeptApart (·.isResolved) state

/-- The rendering of a state is the same whatever the order in which its maps are iterated. -/
structure OrderIndependent (state : MaterializedState)
    (statuses : AssocMap ClaimId EpistemicStatus) : Prop where
  overview : ∀ other otherStatuses, state.Reorder other →
    AssocMap.Same statuses otherStatuses →
      overview other otherStatuses = overview state statuses
  detail : ∀ other otherStatuses, state.Reorder other → AssocMap.Same statuses otherStatuses →
    ∀ claimId, claimDetail other otherStatuses claimId = claimDetail state statuses claimId

/-- The overview, by its parts. -/
theorem overview_eq (state : MaterializedState) (statuses : AssocMap ClaimId EpistemicStatus) :
    overview state statuses = {
      totalClaims := state.claims.entries.length
      totalRelations := state.relations.length
      totalStances := state.stances.entries.length
      participants :=
        nameSet (state.claims.values.map (·.author) ++ state.stances.values.map (·.author))
      items := listedClaims (·.isOpen .item) state statuses
      proposals := listedClaims (·.isOpen .proposal) state statuses
      resolved := listedClaims (·.isResolved) state statuses
      attention := buildAttentionSignals state statuses } :=
  rfl

/-- The overview does not depend on the order exactly when blockers are alike and no listed claims
sort alike. -/
theorem orderIndependent_iff {state : MaterializedState}
    {statuses : AssocMap ClaimId EpistemicStatus} :
    OrderIndependent state statuses ↔ BlockersAlike state statuses ∧ ListedApart state := by
  constructor
  · intro independent
    have lists : ∀ list : OverviewData → List ClaimSummary, ∀ category : ClaimState → Bool,
        (∀ state statuses, list (overview state statuses) =
          listedClaims category state statuses) →
        KeptApart category state := by
      intro list category listed
      apply (listedClaims_alike_iff statuses category).mp
      intro other otherStatuses reorder sameStatuses
      rw [← listed, ← listed, independent.overview other otherStatuses reorder sameStatuses]
    refine ⟨?_, lists OverviewData.items _ fun _ _ => rfl,
      lists OverviewData.proposals _ fun _ _ => rfl,
      lists OverviewData.resolved _ fun _ _ => rfl⟩
    apply attention_alike_iff.mp
    intro other otherStatuses reorder sameStatuses
    exact congrArg OverviewData.attention
      (independent.overview other otherStatuses reorder sameStatuses)
  · rintro ⟨alike, apart⟩
    refine ⟨?_, fun _ _ reorder sameStatuses claimId =>
      claimDetail_reorder reorder sameStatuses claimId⟩
    intro other otherStatuses reorder sameStatuses
    have participants : nameSet
          (other.claims.values.map (·.author) ++ other.stances.values.map (·.author)) =
        nameSet (state.claims.values.map (·.author) ++ state.stances.values.map (·.author)) := by
      have perm := (reorder.claims.values_perm.map (·.author)).append
        (reorder.stances.values_perm.map (·.author))
      rw [nameSet, nameSet, sortedNames_eq_of_perm perm]
    rw [overview_eq, overview_eq, reorder.relations, participants,
      List.Perm.length_eq reorder.claims, List.Perm.length_eq reorder.stances,
      (listedClaims_alike_iff _ _).mpr apart.items other otherStatuses reorder sameStatuses,
      (listedClaims_alike_iff _ _).mpr apart.proposals other otherStatuses reorder sameStatuses,
      (listedClaims_alike_iff _ _).mpr apart.resolved other otherStatuses reorder sameStatuses,
      attention_alike_iff.mpr alike other otherStatuses reorder sameStatuses]

/-! ### The rendering of a log

In a replayed log claims are stored under their own ids, so that only the blockers of a contested
claim can depend on the order, and they do when it has two. -/

/-- Every claim is stored under its own id. -/
theorem lookup_replay_id {log : List Entry} {id : ClaimId} {claim : ClaimState}
    (found : (replay log).claims.lookup id = some claim) : claim.id = id := by
  induction log using List.reverseRecOn generalizing claim with
  | nil => simp [replay, MaterializedState.new] at found
  | append_singleton log entry ih =>
      rw [replay_concat, lookup_claims_reduce] at found
      cases known : (replay log).claims.lookup id with
      | some before =>
          rw [known] at found
          cases found
          have sameId := ih known
          exact sameId
      | none =>
          rw [known] at found
          exact of_decide_eq_true (Option.filter_eq_some_iff.mp found).2

/-- In a replayed log no two claims have one id. -/
theorem keptApart_replay (category : ClaimState → Bool) (log : List Entry) :
    KeptApart category (replay log) := by
  intro a aMember b bMember _ _ sameId
  obtain ⟨⟨key, _⟩, here, rfl⟩ := List.mem_map.mp aMember
  obtain ⟨⟨key', _⟩, there, rfl⟩ := List.mem_map.mp bMember
  have aFound := AssocMap.mem_entries_iff.mp here
  have bFound := AssocMap.mem_entries_iff.mp there
  obtain rfl : key = key' := (lookup_replay_id aFound).symm.trans
    (sameId.trans (lookup_replay_id bFound))
  exact Option.some.inj (aFound.symm.trans bFound)

/-- The blockers of a claim, read off the log. -/
theorem mem_blockers_iff {log : List Entry} {state : MaterializedState} (rep : Represents log state)
    {claimId : ClaimId} {name : String} :
    name ∈ blockers state claimId ↔
      ∃ position, LatestStance log claimId name position ∧ position.isNegative = true := by
  rw [blockers, List.mem_map]
  constructor
  · rintro ⟨stance, member, rfl⟩
    obtain ⟨held, negative⟩ := List.mem_filter.mp member
    obtain rfl := stancesOn_target held
    exact ⟨stance.position, (mem_stancesOn rep).mp held, negative⟩
  · rintro ⟨position, latest, negative⟩
    exact ⟨_, List.mem_filter.mpr ⟨(mem_stancesOn rep).mpr latest, negative⟩, rfl⟩

/-- No two participants block one contested claim or object to it. -/
def OneBlockerEach (log : List Entry) : Prop :=
  ∀ claimId ∈ unresolvedClaims log, semanticStatus log claimId = .contested →
    ∀ author position other otherPosition, LatestStance log claimId author position →
      LatestStance log claimId other otherPosition → position.isNegative = true →
        otherPosition.isNegative = true → author = other

/-- For a replayed log the condition on blockers is one on the log: no contested claim has two. -/
theorem blockersAlike_replay_iff (log : List Entry) :
    BlockersAlike (replay log) (statuses (replay log)) ↔ OneBlockerEach log := by
  have rep := replay_represents log
  constructor
  · intro alike claimId unresolved contested author position other otherPosition latest later
      negative otherNegative
    apply oneBlocker_iff.mp (alike claimId ((rep.claims claimId).mpr unresolved.1)
      ((lookup_statuses rep).mpr ⟨unresolved, contested⟩))
    · exact (mem_blockers_iff rep).mpr ⟨position, latest, negative⟩
    · exact (mem_blockers_iff rep).mpr ⟨otherPosition, later, otherNegative⟩
  · intro oneEach claimId _ found
    apply oneBlocker_iff.mpr
    intro author aMember other bMember
    obtain ⟨unresolved, contested⟩ := (lookup_statuses rep).mp found
    obtain ⟨position, latest, negative⟩ := (mem_blockers_iff rep).mp aMember
    obtain ⟨otherPosition, later, otherNegative⟩ := (mem_blockers_iff rep).mp bMember
    exact oneEach claimId unresolved contested author position other otherPosition latest later
      negative otherNegative

/-- The impact of the drafts is told alike for every order of iteration. -/
theorem impactAnalysis_eq (order another : HashOrder) (committedEntries : List Entry)
    (drafts : List DraftEntry) (draftAuthor : String) :
    order.impactAnalysis committedEntries drafts draftAuthor =
      another.impactAnalysis committedEntries drafts draftAuthor := by
  have same : ∀ log, AssocMap.Same (order.arrange (replay log)).claims
        (another.arrange (replay log)).claims ∧
      AssocMap.Same (statuses (order.arrange (replay log)))
        (statuses (another.arrange (replay log))) := by
    intro log
    refine ⟨(order.reorder _).claims.symm.trans (another.reorder _).claims, ?_⟩
    exact statuses_same ((replay_represents log).reorder (order.reorder _))
      ((replay_represents log).reorder (another.reorder _))
  unfold HashOrder.impactAnalysis HashOrder.materializeEntries
  cases mergedEntries committedEntries drafts draftAuthor with
  | error error => rfl
  | ok merged =>
      exact congrArg Except.ok (buildImpactAnalysis_eq (same committedEntries).1
        (same committedEntries).2 (same merged).1 (same merged).2)

/-- What a participant may compute from a log: a state and a status map, iterated in some order. -/
structure Materialized (log : List Entry) where
  state : MaterializedState
  statusMap : AssocMap ClaimId EpistemicStatus
  arranged : (replay log).Reorder state
  computed : AssocMap.Same (statuses state) statusMap

namespace Materialized

variable {log : List Entry}

/-- The status map is one of the log, up to its order. -/
theorem statusMap_same (here : Materialized log) :
    AssocMap.Same (statuses (replay log)) here.statusMap := by
  have rep := replay_represents log
  exact (statuses_same rep (rep.reorder here.arranged)).trans here.computed

def ofReorder {other : MaterializedState} {otherStatuses : AssocMap ClaimId EpistemicStatus}
    (reorder : (replay log).Reorder other)
    (same : AssocMap.Same (statuses (replay log)) otherStatuses) : Materialized log where
  state := other
  statusMap := otherStatuses
  arranged := reorder
  computed := by
    have rep := replay_represents log
    exact (statuses_same (rep.reorder reorder) rep).trans same

end Materialized

/-- All participants, and all calls, render a log alike: the overview, the claims, and the prompts
that both clients build. -/
structure RenderedAlike (log : List Entry) : Prop where
  overview : ∀ first second : Materialized log,
    overview first.state first.statusMap = overview second.state second.statusMap
  detail : ∀ (first second : Materialized log) (claimId : ClaimId),
    claimDetail first.state first.statusMap claimId =
      claimDetail second.state second.statusMap claimId
  prompt : ∀ (order another : HashOrder) (participant : String) (engine : ConsensusEngine),
    engine.log = log →
      LlmTurn.buildSystemPrompt order participant engine =
        LlmTurn.buildSystemPrompt another participant engine
  browserPrompt : ∀ (order another : HashOrder) (state : BrowserApp.State),
    state.coordinator.committedPrefix = log →
      BrowserApp.buildSystemPrompt order state = BrowserApp.buildSystemPrompt another state

/-- A log is rendered alike exactly if the state that it gives is. -/
theorem renderedAlike_iff (log : List Entry) :
    RenderedAlike log ↔ OrderIndependent (replay log) (statuses (replay log)) := by
  constructor
  · intro alike
    let unmoved : Materialized log := ⟨replay log, _, .refl _, .refl _⟩
    constructor
    · intro other otherStatuses reorder same
      exact alike.overview (.ofReorder reorder same) unmoved
    · intro other otherStatuses reorder same claimId
      exact alike.detail (.ofReorder reorder same) unmoved claimId
  · intro independent
    have overviews : ∀ here : Materialized log, overview here.state here.statusMap =
        overview (replay log) (statuses (replay log)) :=
      fun here => independent.overview _ _ here.arranged here.statusMap_same
    have ordered : ∀ order : HashOrder, order.overviewFromEntries log =
        overview (replay log) (statuses (replay log)) :=
      fun order => overviews ⟨_, _, order.reorder (replay log), .refl _⟩
    constructor
    · intro first second
      rw [overviews first, overviews second]
    · intro first second claimId
      rw [independent.detail _ _ first.arranged first.statusMap_same,
        independent.detail _ _ second.arranged second.statusMap_same]
    · rintro order another participant engine rfl
      unfold LlmTurn.buildSystemPrompt
      rw [ordered order, ordered another, impactAnalysis_eq order another]
    · rintro order another state rfl
      unfold BrowserApp.buildSystemPrompt BrowserApp.impactAnalysis
      rw [ordered order, ordered another, impactAnalysis_eq order another]

/-- A state is rendered alike for every order of iteration if and only if the blockers of each
contested claim have one name and no list of the overview holds two claims under one id; a log is if
and only if no contested claim has two participants who block it or object to it. -/
theorem overview_order_independent_iff (state : MaterializedState)
    (statuses : AssocMap ClaimId EpistemicStatus) (log : List Entry) :
    (OrderIndependent state statuses ↔ BlockersAlike state statuses ∧ ListedApart state) ∧
      (RenderedAlike log ↔ OneBlockerEach log) := by
  refine ⟨orderIndependent_iff, ?_⟩
  rw [renderedAlike_iff, orderIndependent_iff, blockersAlike_replay_iff]
  exact and_iff_left ⟨keptApart_replay _ log, keptApart_replay _ log, keptApart_replay _ log⟩

/-- A proposal that two participants are against. -/
def blockedLog : List Entry :=
  [.claim ⟨"p1"⟩ "ava" "Use tokens" .proposal none, .stance ⟨"p1"⟩ "ben" .block,
    .stance ⟨"p1"⟩ "cleo" .object]

/-- Iterated backwards, the stances name its blockers the other way round. -/
theorem blockedLog_order_shows : ¬∀ state statuses, OrderIndependent state statuses := by
  intro independent
  have overviews := (independent (replay blockedLog) (statuses (replay blockedLog))).overview
    { replay blockedLog with stances := backwards (replay blockedLog).stances } _
    ⟨.refl _, rfl, (List.reverse_perm _).symm, .refl _, rfl⟩ (.refl _)
  have signalled : .contested ⟨"p1"⟩ "Use tokens" (blockers (replay blockedLog) ⟨"p1"⟩) ∈
      (overview (replay blockedLog) (statuses (replay blockedLog))).attention :=
    contested_mem_attention.mpr ⟨by decide +kernel, rfl, _, rfl, rfl⟩
  rw [← overviews] at signalled
  have sameNames := (contested_mem_attention.mp signalled).2.1
  exact absurd sameNames (by decide +kernel)

end ProstheticConscience.Consensus
