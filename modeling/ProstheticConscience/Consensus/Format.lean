/-
Module: ProstheticConscience.Consensus.Format
Purpose: Text formatting of structured deliberation data, and the system prompt of the drafting
  assistants that is made from it.
Trusted boundary: none
Main exports: formatOverview, formatDrafts, formatImpactAnalysis, SystemPromptInput,
  buildSystemPrompt
-/
import ProstheticConscience.Consensus.Queries

namespace ProstheticConscience.Consensus

/-! ### Names -/

def formatStatus : EpistemicStatus → String
  | .established => "Established"
  | .unexamined => "Unexamined"
  | .contested => "Contested"
  | .defeated => "Defeated"
  | .unresolved => "Unresolved"

def formatPosition : Position → String
  | .block => "block"
  | .object => "object"
  | .standAside => "stand-aside"
  | .abstain => "abstain"
  | .consent => "consent"
  | .support => "support"
  | .champion => "champion"

def formatKind : ClaimKind → String
  | .item => "item"
  | .proposal => "proposal"
  | .fact => "fact"
  | .conditional => "conditional"
  | .value => "value"
  | .reference => "reference"

def formatRelationKind : RelationKind → String
  | .attacks => "attacks"
  | .supports => "supports"

def formatOutcome : Outcome → String
  | .accepted => "Accepted"
  | .rejected => "Rejected"
  | .tabled => "Tabled"
  | .withdrawn => "Withdrawn"

def formatClaimRef : ClaimRef → String
  | .committed claimId => "claim:" ++ claimId.value
  | .draft draftId => "draft:" ++ toString draftId

/-! ### Overview -/

def joined (separator : String) (parts : List String) : String :=
  separator.intercalate parts

/-- A claim by its id, in brackets, and its body, in quotes. -/
def bracketed (id body : String) : String :=
  "[" ++ id ++ "] \"" ++ body ++ "\""

/-- Indented lines under a title. -/
def listing (title : String) (lines : List String) : String :=
  title ++ ":\n" ++ String.join (lines.map fun line => "  " ++ line ++ "\n")

/-- A listing after a blank line, left out when it has no lines. -/
def listingSection (title : String) (lines : List String) : String :=
  if lines.isEmpty then "" else "\n" ++ listing title lines

def formatStanceSummary (stances : List StanceSummary) : String :=
  joined " | " (stances.map fun summary =>
    formatPosition summary.position ++ ": " ++ joined ", " summary.authors)

def formatClaimOneliner (claim : ClaimSummary) : String :=
  let status := (claim.status.map formatStatus).getD "unknown"
  let stances := formatStanceSummary claim.stances
  bracketed claim.id.value claim.body ++ " by " ++ claim.author ++ " — " ++ status ++
    if stances.isEmpty then "" else " (" ++ stances ++ ")"

def formatResolved (claim : ClaimSummary) : String :=
  bracketed claim.id.value claim.body ++ " by " ++ claim.author ++ " — " ++
    (claim.resolution.map (formatOutcome ·.outcome)).getD "resolved"

def formatAttentionSignal : AttentionSignal → String
  | .contested claimId body blockers =>
      bracketed claimId.value body ++ " — Contested (blockers: " ++ joined ", " blockers ++ ")"
  | .unexamined claimId body author =>
      bracketed claimId.value body ++ " by " ++ author ++ " — Unexamined"
  | .unresolvedCycle claimIds =>
      joined " <-> " (claimIds.map (·.value)) ++ " — Unresolved cycle"

/-- How many claims were resolved, by outcome, in parentheses. -/
def formatResolutionCounts (resolved : List ClaimSummary) : String :=
  let accepted := resolved.countP fun claim =>
    decide (claim.resolution.map (·.outcome) = some .accepted)
  let otherResolved := resolved.length - accepted
  let parts :=
    (if accepted > 0 then [toString accepted ++ " accepted"] else []) ++
    (if otherResolved > 0 then [toString otherResolved ++ " other"] else [])
  if parts.isEmpty then "" else " (" ++ joined ", " parts ++ ")"

def formatOverview (data : OverviewData) : String :=
  "Deliberation: " ++ toString data.totalClaims ++ " claims, " ++
    toString data.totalRelations ++ " relations, " ++ toString data.totalStances ++
    " stances from " ++ toString data.participants.length ++ " participants\n" ++
  "Open items: " ++ toString data.items.length ++ " | Active proposals: " ++
    toString data.proposals.length ++ " | Resolved: " ++ toString data.resolved.length ++
    formatResolutionCounts data.resolved ++ "\n" ++
  listingSection "Proposals" (data.proposals.map formatClaimOneliner) ++
  listingSection "Open items" (data.items.map formatClaimOneliner) ++
  listingSection "Resolved" (data.resolved.map formatResolved) ++
  listingSection "Needs attention" (data.attention.map formatAttentionSignal)

/-! ### Drafts and their impact -/

def formatDraftContent : DraftContent → String
  | .claim body claimKind parent =>
      "claim \"" ++ body ++ "\" (" ++ formatKind claimKind ++ ")" ++
        (parent.map fun claimRef => " parent=" ++ formatClaimRef claimRef).getD ""
  | .relation source target kind =>
      "relation " ++ formatClaimRef source ++ " " ++ formatRelationKind kind ++ " " ++
        formatClaimRef target
  | .stance target position =>
      "stance " ++ formatPosition position ++ " on " ++ formatClaimRef target
  | .resolve target outcome =>
      "resolve " ++ formatClaimRef target ++ " as " ++ formatOutcome outcome
  | .comment target body =>
      "comment" ++ (target.map fun claimRef => " on " ++ formatClaimRef claimRef).getD "" ++
        " — \"" ++ body ++ "\""

def formatDraftEntry (draft : DraftEntry) : String :=
  "#" ++ toString draft.id ++ " " ++ formatDraftContent draft.entry

def formatDrafts (drafts : List DraftEntry) : String :=
  if drafts.isEmpty then "Pending drafts: none"
  else "Pending drafts: " ++ toString drafts.length ++ "\n" ++
    String.join (drafts.map fun draft => "  " ++ formatDraftEntry draft ++ "\n")

def formatImpactNewClaim (claim : ImpactNewClaim) : String :=
  bracketed ("#" ++ toString claim.draftId) claim.body ++ " by " ++ claim.author ++ " — " ++
    formatKind claim.kind ++ " (" ++ (claim.status.map formatStatus).getD "unknown" ++ ")"

def formatImpactStatusChange (change : ImpactStatusChange) : String :=
  bracketed change.claimId.value change.body ++ " — " ++
    (change.before.map formatStatus).getD "none" ++ " -> " ++
    (change.after.map formatStatus).getD "resolved"

def formatImpactAnalysis (impact : ImpactAnalysis) : String :=
  if impact.newClaims.isEmpty && impact.statusChanges.isEmpty then
    "Impact: no structural changes"
  else
    "Impact: " ++ toString impact.newClaims.length ++ " new claims, " ++
      toString impact.statusChanges.length ++ " status changes\n" ++
    (if impact.newClaims.isEmpty then ""
      else listing "New claims" (impact.newClaims.map formatImpactNewClaim)) ++
    (if impact.statusChanges.isEmpty then ""
      else listing "Status changes" (impact.statusChanges.map formatImpactStatusChange))

/-! ### The system prompt -/

structure SystemPromptInput where
  participant : String
  overview : String
  drafts : String
  impact : Option String
  tools : String
deriving DecidableEq, Repr

def buildSystemPrompt (input : SystemPromptInput) : String :=
  let impactSection :=
    (input.impact.map fun impact => "## Current draft impact\n" ++ impact ++ "\n\n").getD ""
  "You are an AI drafting assistant helping a human participant contribute to a shared " ++
  "consensus log.\n" ++
  "You are participating as \"" ++
  input.participant ++
  "\".\n" ++
  "The shared log is authoritative. You may inspect committed state and manipulate only local " ++
  "drafts.\n" ++
  "Never claim a draft is committed. Only the human can commit drafts; until then, drafts are " ++
  "local and pending review.\n" ++
  "All drafts are on behalf of the current participant, \"" ++
  input.participant ++
  "\". The tool layer injects authorship automatically, so never attribute a local draft to " ++
  "someone else.\n" ++
  "Your job is to hold a natural, proactive conversation that narrows the participant's intent " ++
  "until a draft is focused and well formed.\n" ++
  "Never force the participant to know or use internal consensus-log concepts such as claim, " ++
  "stance, relation, draft, or graph structure. Infer those privately.\n" ++
  "In user-facing text, speak naturally. Prefer wording like \"It sounds like you agree with " ++
  "the hybrid approach\" or \"Do you want me to note that down?\" over internal jargon like " ++
  "\"I drafted a stance.\"\n" ++
  "Avoid claim IDs, tool names, and internal labels in user-facing text unless the participant " ++
  "explicitly asks for those mechanics.\n" ++
  "Present assumptions in plain language and verify them conversationally. When intent is " ++
  "ambiguous, ask one short focused question instead of silently recording the wrong thing.\n" ++
  "When you need to clarify intent before recording, reply in plain text without calling any " ++
  "tools.\n" ++
  "By default, do not create or revise drafts until the participant explicitly asks you to " ++
  "record something, or clearly confirms after you summarize your understanding.\n" ++
  "Use a drafting tool only when the participant is making, revising, withdrawing, resolving, " ++
  "or clearly asking you to prepare a concrete contribution to the shared log.\n" ++
  "If the participant is asking what they could say, what the smallest contribution would be, " ++
  "what would happen, or how to phrase something, do not draft immediately. Reply in plain " ++
  "text to discuss options and, if needed, ask one focused follow-up.\n" ++
  "If the participant asks for a summary, explanation, comparison, process guidance, or " ++
  "strategy, reply in plain text unless they also ask you to record something.\n" ++
  "Soft preferences, gut reactions, and tentative first-person remarks are usually not ready " ++
  "to record yet. If the participant says things like \"sounds right,\" \"that makes sense,\" " ++
  "or \"I'm leaning that way,\" treat that as a cue to confirm intent before drafting, not as " ++
  "permission to record immediately.\n" ++
  "If the participant speaks hypothetically, attributes a view to someone else, or explores a " ++
  "possibility without endorsing it, treat that as analysis by default rather than a new " ++
  "draft.\n" ++
  "If the participant links existing ideas by saying one supports, attacks, answers, or " ++
  "resolves another concern, prefer draft_relation over draft_stance.\n" ++
  "Before drafting a relation from paraphrased language like \"the outage concern\" or \"that " ++
  "risk\", ground the source and target against the current state. Inspect first if needed. If " ++
  "more than one target remains plausible, ask a clarification question instead of guessing.\n" ++
  "When the participant expresses their own stance toward an existing idea, use draft_stance " ++
  "and choose the weakest stance that matches the words: consent for simple agreement, support " ++
  "for positive support without ownership, champion only for strong advocacy or leadership.\n" ++
  "If the participant explicitly asks for a claim, relation, stance, or resolution, do not " ++
  "substitute draft_comment unless the content truly does not fit.\n" ++
  "If the participant explicitly says not to create drafts, do not create drafts.\n" ++
  "When referring to committed claims inside tool arguments, use references like " ++
  "claim:prop-hybrid. When referring to locally drafted claims, use draft:3.\n" ++
  "When answering exact questions about a specific claim, its relations, or its current " ++
  "stances, inspect with claim_detail or preview_claim_detail first.\n" ++
  "When answering \"what would change if\" questions about current drafts, prefer " ++
  "preview_overview, preview_claim_detail, or impact_analysis first.\n" ++
  "Do not call show_drafts after every mutation unless you need to inspect or revise the " ++
  "current draft buffer.\n" ++
  "Use draft_comment for contributions that do not cleanly fit claim, relation, stance, or " ++
  "resolve.\n" ++
  "Reply in plain text whenever no draft or inspection is appropriate.\n" ++
  "\n" ++
  "## Current deliberation state\n" ++
  input.overview ++
  "\n" ++
  "## Pending drafts\n" ++
  input.drafts ++
  "\n" ++
  "\n" ++
  impactSection ++
  "## Available tools\n" ++
  input.tools ++
  "\n"

end ProstheticConscience.Consensus
