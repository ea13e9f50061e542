/-
Module: ProstheticConscience.Consensus.Types
Purpose: Entries of the consensus protocol and the state materialized from a log of them.
Trusted boundary: none
Main exports: ClaimId, Entry, Position, ClaimState, RelationState, StanceState, MaterializedState
-/
import ProstheticConscience.Library.AssocMap
import ProstheticConscience.Consensus.Solver

namespace ProstheticConscience.Consensus

/-- Unique identifier for a claim in the deliberation. -/
structure ClaimId where
  value : String
deriving DecidableEq, Repr, Inhabited

/-- A claim id is determined by its text, so texts may stand for ids in sorting and comparing. -/
theorem ClaimId.value_injective : Function.Injective ClaimId.value := by
  intro first second same
  cases first
  cases second
  exact congrArg ClaimId.mk same

/-- Classification hint for claims. -/
inductive ClaimKind where
  | item
  | proposal
  | fact
  | conditional
  | value
  | reference
deriving DecidableEq, Repr

/-- The type of relation between two claims. -/
inductive RelationKind where
  | attacks
  | supports
deriving DecidableEq, Repr

/-- A participant's discrete position on a proposal. -/
inductive Position where
  | block
  | object
  | standAside
  | abstain
  | consent
  | support
  | champion
deriving DecidableEq, Repr

/-- Positions that indicate disagreement. -/
def Position.isNegative : Position → Bool
  | .block | .object => true
  | _ => false

/-- The outcome of resolving a proposal. -/
inductive Outcome where
  | accepted
  | rejected
  | tabled
  | withdrawn
deriving DecidableEq, Repr

/-- A structured entry in the consensus protocol log. -/
inductive Entry where
  | claim (claimId : ClaimId) (author body : String) (claimKind : ClaimKind)
      (parentId : Option ClaimId)
  | relation (sourceId targetId : ClaimId) (kind : RelationKind) (author : String)
  | stance (targetId : ClaimId) (author : String) (position : Position)
  | resolve (claimId : ClaimId) (author : String) (outcome : Outcome)
  | comment (claimId : Option ClaimId) (author body : String)
deriving DecidableEq, Repr

/-- Resolution status of a claim. -/
structure Resolution where
  outcome : Outcome
  author : String
deriving DecidableEq, Repr

/-- A claim as materialized from the log. -/
structure ClaimState where
  id : ClaimId
  author : String
  body : String
  kind : ClaimKind
  parentId : Option ClaimId
  resolution : Option Resolution
deriving DecidableEq, Repr

/-- A relation as materialized from the log. -/
structure RelationState where
  sourceId : ClaimId
  targetId : ClaimId
  kind : RelationKind
  author : String
deriving DecidableEq, Repr

/-- A stance as materialized from the log. -/
structure StanceState where
  targetId : ClaimId
  author : String
  position : Position
deriving DecidableEq, Repr

/-- The materialized state produced by replaying the log.  Stances are keyed by target and
author. -/
structure MaterializedState where
  claims : AssocMap ClaimId ClaimState
  relations : List RelationState
  stances : AssocMap (ClaimId × String) StanceState
  nodeMap : AssocMap ClaimId NodeId
  nextNodeId : Nat

def MaterializedState.new : MaterializedState where
  claims := ∅
  relations := []
  stances := ∅
  nodeMap := ∅
  nextNodeId := 0

/-- The same state, its maps perhaps iterated in another order. -/
structure MaterializedState.Reorder (before after : MaterializedState) : Prop where
  claims : AssocMap.Same before.claims after.claims
  relations : after.relations = before.relations
  stances : AssocMap.Same before.stances after.stances
  nodeMap : AssocMap.Same before.nodeMap after.nodeMap
  nextNodeId : after.nextNodeId = before.nextNodeId

/-- A materialized state is a reordering of itself. -/
theorem MaterializedState.Reorder.refl (state : MaterializedState) : state.Reorder state :=
  ⟨.refl _, rfl, .refl _, .refl _, rfl⟩

end ProstheticConscience.Consensus
