/-
Module: ProstheticConscience.Consensus.Queries
Purpose: The detail of a claim among uncommitted drafts, and the JSON forms in which the tools of
  both clients answer queries.
Trusted boundary: none
Main exports: HashOrder.previewClaimDetail, OverviewData.toValue, ClaimDetail.toValue,
  DraftEntry.toValue, ImpactAnalysis.toValue
-/
import ProstheticConscience.Consensus.EntryBuffer
import ProstheticConscience.Consensus.Preview

namespace ProstheticConscience.Consensus

/-- Claim detail including uncommitted drafts. -/
def HashOrder.previewClaimDetail (order : HashOrder) (committedEntries : List Entry)
    (drafts : List DraftEntry) (draftAuthor : String) (claim : ClaimRef) :
    Except EngineError (Option ClaimDetail) := do
  let claimId ← resolveClaimRefForPreview drafts claim
  let merged ← mergedEntries committedEntries drafts draftAuthor
  return order.claimDetail merged claimId

/-! ### Answers as JSON -/

/-- An absent value is written as null. -/
def nullable {α : Type} (toValue : α → Value) : Option α → Value
  | some value => toValue value
  | none => .null

def DraftId.toValue (draftId : DraftId) : Value :=
  .number (.posInt draftId)

def EpistemicStatus.toValue : EpistemicStatus → Value
  | .established => .string "established"
  | .unexamined => .string "unexamined"
  | .contested => .string "contested"
  | .defeated => .string "defeated"
  | .unresolved => .string "unresolved"

def Resolution.toValue (resolution : Resolution) : Value :=
  .ofMembers [("outcome", resolution.outcome.toValue), ("author", .string resolution.author)]

def StanceSummary.toValue (summary : StanceSummary) : Value :=
  .ofMembers [("position", summary.position.toValue),
    ("authors", .array (summary.authors.map .string))]

def ClaimSummary.toValue (summary : ClaimSummary) : Value :=
  .ofMembers [("id", summary.id.toValue), ("body", .string summary.body),
    ("author", .string summary.author), ("kind", summary.kind.toValue),
    ("status", nullable EpistemicStatus.toValue summary.status),
    ("stances", .array (summary.stances.map StanceSummary.toValue)),
    ("parent_id", nullable ClaimId.toValue summary.parentId),
    ("resolution", nullable Resolution.toValue summary.resolution)]

/-- A signal is tagged from outside, by the name of its variant. -/
def AttentionSignal.toValue : AttentionSignal → Value
  | .unexamined claimId body author =>
      .ofMembers [("Unexamined", .ofMembers [("claim_id", claimId.toValue),
        ("body", .string body), ("author", .string author)])]
  | .contested claimId body blockers =>
      .ofMembers [("Contested", .ofMembers [("claim_id", claimId.toValue),
        ("body", .string body), ("blockers", .array (blockers.map .string))])]
  | .unresolvedCycle claimIds =>
      .ofMembers [("UnresolvedCycle",
        .ofMembers [("claim_ids", .array (claimIds.map ClaimId.toValue))])]

def OverviewData.toValue (data : OverviewData) : Value :=
  .ofMembers [("total_claims", .number (.posInt data.totalClaims)),
    ("total_relations", .number (.posInt data.totalRelations)),
    ("total_stances", .number (.posInt data.totalStances)),
    ("participants", .array (data.participants.map .string)),
    ("items", .array (data.items.map ClaimSummary.toValue)),
    ("proposals", .array (data.proposals.map ClaimSummary.toValue)),
    ("resolved", .array (data.resolved.map ClaimSummary.toValue)),
    ("attention", .array (data.attention.map AttentionSignal.toValue))]

def ClaimDetail.toValue (detail : ClaimDetail) : Value :=
  .ofMembers [("claim", detail.claim.toValue),
    ("attacked_by", .array (detail.attackedBy.map ClaimSummary.toValue)),
    ("supported_by", .array (detail.supportedBy.map ClaimSummary.toValue)),
    ("attacks", .array (detail.attacks.map ClaimSummary.toValue)),
    ("supports", .array (detail.supports.map ClaimSummary.toValue))]

def ClaimRef.toValue : ClaimRef → Value
  | .committed claimId => .ofMembers [("claim_id", claimId.toValue)]
  | .draft draftId => .ofMembers [("draft_id", DraftId.toValue draftId)]

/-- A reference that is skipped when it is absent. -/
def optionalRef (key : String) : Option ClaimRef → List (String × Value)
  | some claimRef => [(key, claimRef.toValue)]
  | none => []

/-- The JSON value of a draft's content, tagged with its type. -/
def DraftContent.toValue : DraftContent → Value
  | .claim body claimKind parent =>
      .ofMembers ([("type", .string "claim"), ("body", .string body),
        ("claim_kind", claimKind.toValue)] ++ optionalRef "parent" parent)
  | .relation source target kind =>
      .ofMembers [("type", .string "relation"), ("source", source.toValue),
        ("target", target.toValue), ("kind", kind.toValue)]
  | .stance target position =>
      .ofMembers [("type", .string "stance"), ("target", target.toValue),
        ("position", position.toValue)]
  | .resolve target outcome =>
      .ofMembers [("type", .string "resolve"), ("claim", target.toValue),
        ("outcome", outcome.toValue)]
  | .comment target body =>
      .ofMembers ([("type", .string "comment")] ++ optionalRef "claim" target ++
        [("body", .string body)])

def DraftEntry.toValue (draft : DraftEntry) : Value :=
  .ofMembers [("id", DraftId.toValue draft.id), ("entry", draft.entry.toValue)]

def ImpactNewClaim.toValue (claim : ImpactNewClaim) : Value :=
  .ofMembers [("draft_id", DraftId.toValue claim.draftId), ("body", .string claim.body),
    ("author", .string claim.author), ("kind", claim.kind.toValue),
    ("status", nullable EpistemicStatus.toValue claim.status)]

def ImpactStatusChange.toValue (change : ImpactStatusChange) : Value :=
  .ofMembers [("claim_id", change.claimId.toValue), ("body", .string change.body),
    ("before", nullable EpistemicStatus.toValue change.before),
    ("after", nullable EpistemicStatus.toValue change.after)]

def ImpactAnalysis.toValue (impact : ImpactAnalysis) : Value :=
  .ofMembers [("new_claims", .array (impact.newClaims.map ImpactNewClaim.toValue)),
    ("status_changes", .array (impact.statusChanges.map ImpactStatusChange.toValue))]

end ProstheticConscience.Consensus
