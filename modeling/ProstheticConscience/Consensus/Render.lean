/-
Module: ProstheticConscience.Consensus.Render
Purpose: The overview of a deliberation: the claims by category with their stances, the
  participants, and the signals that need attention; and the detailed view of a claim.
Trusted boundary: none
Main exports: ClaimSummary, AttentionSignal, OverviewData, buildClaimSummary,
  buildAttentionSignals, overview, ClaimDetail, claimDetail, HashOrder,
  HashOrder.overviewFromEntries, HashOrder.claimDetail
-/
import ProstheticConscience.Consensus.Status
import Mathlib.Data.String.Basic

namespace ProstheticConscience.Consensus

/-- The authors who take one position on a claim. -/
structure StanceSummary where
  position : Position
  authors : List String
deriving DecidableEq, Repr

/-- Summary of a single claim. -/
structure ClaimSummary where
  id : ClaimId
  body : String
  author : String
  kind : ClaimKind
  status : Option EpistemicStatus
  stances : List StanceSummary
  parentId : Option ClaimId
  resolution : Option Resolution
deriving DecidableEq, Repr

/-- A signal that something in the deliberation needs participant attention. -/
inductive AttentionSignal where
  | unexamined (claimId : ClaimId) (body author : String)
  | contested (claimId : ClaimId) (body : String) (blockers : List String)
  | unresolvedCycle (claimIds : List ClaimId)
deriving DecidableEq, Repr

/-- High-level overview of the deliberation state. -/
structure OverviewData where
  totalClaims : Nat
  totalRelations : Nat
  totalStances : Nat
  participants : List String
  items : List ClaimSummary
  proposals : List ClaimSummary
  resolved : List ClaimSummary
  attention : List AttentionSignal
deriving DecidableEq, Repr

/-- The number of a position, in the order of declaration. -/
def Position.rank : Position → Nat
  | .block => 0
  | .object => 1
  | .standAside => 2
  | .abstain => 3
  | .consent => 4
  | .support => 5
  | .champion => 6

def sortedNames (names : List String) : List String :=
  names.mergeSort fun a b => decide (a ≤ b)

/-- The names as an ordered set holds them. -/
def nameSet (names : List String) : List String :=
  (sortedNames names).eraseReps

/-- The authors of the stances on a claim, by position. -/
def positionAuthors (claimId : ClaimId) (state : MaterializedState) :
    AssocMap Position (List String) :=
  (stancesOn state claimId).foldl
    (fun grouped stance =>
      grouped.update stance.position
        ((grouped.lookup stance.position).getD [] ++ [stance.author]))
    ∅

def buildClaimSummary (claim : ClaimState) (statuses : AssocMap ClaimId EpistemicStatus)
    (state : MaterializedState) : ClaimSummary where
  id := claim.id
  body := claim.body
  author := claim.author
  kind := claim.kind
  status := statuses.lookup claim.id
  stances :=
    ((positionAuthors claim.id state).entries.map fun group =>
        { position := group.1, authors := sortedNames group.2 : StanceSummary }).mergeSort
      fun a b => decide (a.position.rank ≤ b.position.rank)
  parentId := claim.parentId
  resolution := claim.resolution

/-- The signal for a claim with a status, if the claim exists and its status calls for one. -/
def attentionSignal? (state : MaterializedState) (claimId : ClaimId) (status : EpistemicStatus) :
    Option AttentionSignal :=
  (state.claims.lookup claimId).bind fun claim =>
    match status with
    | .unexamined => some (.unexamined claimId claim.body claim.author)
    | .contested =>
        let blockers := (stancesOn state claimId).filter (·.position.isNegative)
        some (.contested claimId claim.body (blockers.map (·.author)))
    | .unresolved => some (.unresolvedCycle [claimId])
    | _ => none

/-- Contested claims come first, then unexamined ones, then cycles. -/
def AttentionSignal.sortKey : AttentionSignal → Nat × String
  | .contested claimId _ _ => (0, claimId.value)
  | .unexamined claimId _ _ => (1, claimId.value)
  | .unresolvedCycle claimIds => (2, (claimIds.head?.map (·.value)).getD "")

def AttentionSignal.sortsBefore (a b : AttentionSignal) : Bool :=
  decide (a.sortKey.1 < b.sortKey.1) ||
    (decide (a.sortKey.1 = b.sortKey.1) && decide (a.sortKey.2 ≤ b.sortKey.2))

def buildAttentionSignals (state : MaterializedState)
    (statuses : AssocMap ClaimId EpistemicStatus) : List AttentionSignal :=
  (statuses.entries.filterMap fun entry => attentionSignal? state entry.1 entry.2).mergeSort
    AttentionSignal.sortsBefore

def sortedSummaries (summaries : List ClaimSummary) : List ClaimSummary :=
  summaries.mergeSort fun a b => decide (a.id.value ≤ b.id.value)

/-- An overview of the current deliberation state; a resolved claim is listed as resolved only. -/
def overview (state : MaterializedState) (statuses : AssocMap ClaimId EpistemicStatus) :
    OverviewData :=
  let listed := fun (category : ClaimState → Bool) =>
    sortedSummaries ((state.claims.values.filter category).map fun claim =>
      buildClaimSummary claim statuses state)
  { totalClaims := state.claims.entries.length
    totalRelations := state.relations.length
    totalStances := state.stances.entries.length
    participants :=
      nameSet (state.claims.values.map (·.author) ++ state.stances.values.map (·.author))
    items := listed fun claim => claim.resolution.isNone && decide (claim.kind = .item)
    proposals := listed fun claim => claim.resolution.isNone && decide (claim.kind = .proposal)
    resolved := listed fun claim => claim.resolution.isSome
    attention := buildAttentionSignals state statuses }

/-- Detailed view of a single claim with its relations. -/
structure ClaimDetail where
  claim : ClaimSummary
  attackedBy : List ClaimSummary
  supportedBy : List ClaimSummary
  attacks : List ClaimSummary
  supports : List ClaimSummary
deriving DecidableEq, Repr

/-- The detailed view of a claim, if it exists; relations to unknown claims are not shown. -/
def claimDetail (state : MaterializedState) (statuses : AssocMap ClaimId EpistemicStatus)
    (claimId : ClaimId) : Option ClaimDetail :=
  (state.claims.lookup claimId).map fun claim =>
    let related := fun (kind : RelationKind) (near far : RelationState → ClaimId) =>
      state.relations.filterMap fun relation =>
        if near relation = claimId ∧ relation.kind = kind then
          (state.claims.lookup (far relation)).map fun other =>
            buildClaimSummary other statuses state
        else none
    { claim := buildClaimSummary claim statuses state
      attackedBy := related .attacks (·.targetId) (·.sourceId)
      supportedBy := related .supports (·.targetId) (·.sourceId)
      attacks := related .attacks (·.sourceId) (·.targetId)
      supports := related .supports (·.sourceId) (·.targetId) }

/-! ### From a log

Both clients render a log through the same pipeline: replay, statuses, rendering.  The maps of the
materialized state are hash maps, so the pipeline is given an order in which they are iterated. -/

/-- An order in which the hash maps of a materialized state are iterated. -/
structure HashOrder where
  arrange : MaterializedState → MaterializedState
  reorder : ∀ state : MaterializedState, state.Reorder (arrange state)

namespace HashOrder

/-- The order of insertion. -/
def insertion : HashOrder where
  arrange := id
  reorder := fun state => ⟨.refl state.claims, rfl, .refl state.stances, .refl state.nodeMap, rfl⟩

variable (order : HashOrder)

/-- Run the committed-state pipeline over a log. -/
def materializeEntries (entries : List Entry) :
    MaterializedState × AssocMap ClaimId EpistemicStatus :=
  let state := order.arrange (replay entries)
  (state, statuses state)

def overviewFromEntries (entries : List Entry) : OverviewData :=
  let (state, statuses) := order.materializeEntries entries
  overview state statuses

def claimDetail (entries : List Entry) (claimId : ClaimId) : Option ClaimDetail :=
  let (state, statuses) := order.materializeEntries entries
  Consensus.claimDetail state statuses claimId

end HashOrder

end ProstheticConscience.Consensus
