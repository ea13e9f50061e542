/-
Module: ProstheticConscience.Consensus.AppTools
Purpose: The tools of the browser app: typed tool calls, their decoding from what the model sends,
  and the definitions that are advertised.
Trusted boundary: none
Main exports: AppTool, ToolDecodeError, AppTools.decodeToolCall, AppTools.toolDefinitions
-/
import ProstheticConscience.Consensus.BrowserApp
import ProstheticConscience.Consensus.Tools

namespace ProstheticConscience.Consensus

inductive AppTool where
  | overview
  | claimDetail (claimId : ClaimId)
  | showDrafts
  | previewOverview
  | previewClaimDetail (claim : ClaimRef)
  | impactAnalysis
  | draftClaim (body : String) (kind : ClaimKind) (parent : Option ClaimRef)
  | draftRelation (source target : ClaimRef) (kind : RelationKind)
  | draftStance (target : ClaimRef) (position : Position)
  | draftResolve (claim : ClaimRef) (outcome : Outcome)
  | draftComment (body : String) (claim : Option ClaimRef)
  | removeDraft (draftId : DraftId)
deriving DecidableEq, Repr

inductive ToolDecodeErrorKind where
  | unknownTool
  | invalidJsonArguments
  | missingRequiredArgument
  | invalidArgumentValue
deriving DecidableEq, Repr

structure ToolDecodeError where
  kind : ToolDecodeErrorKind
  message : String
deriving DecidableEq, Repr

namespace AppTools

open Tools (ToolDef)

/-! ### Argument helpers -/

def requireValue (args : Value) (field : String) : Except ToolDecodeError Value :=
  match args.get field with
  | some value => .ok value
  | none => .error ⟨.missingRequiredArgument, "missing required argument: " ++ field⟩

/-- A member that can be read in some way. -/
def requireRead {α : Type} (read : Value → Option α) (expected : String) (args : Value)
    (field : String) : Except ToolDecodeError α := do
  let value ← requireValue args field
  match read value with
  | some result => .ok result
  | none => .error ⟨.invalidArgumentValue, field ++ ": expected " ++ expected⟩

def requireString : Value → String → Except ToolDecodeError String :=
  requireRead Value.asStr "a string"

def requireU64 : Value → String → Except ToolDecodeError Nat :=
  requireRead Value.asU64 "a non-negative integer"

def parseClaimRef (value : Value) (field : String) : Except ToolDecodeError ClaimRef :=
  match ClaimRef.fromJsonValue value with
  | some claimRef => .ok claimRef
  | none => .error ⟨.invalidArgumentValue, field ++
      ": expected a claim reference string (claim:<id>, draft:<n>, #<n>) " ++
      "or an object with exactly one of claim_id or draft_id"⟩

def requireClaimRef (args : Value) (field : String) : Except ToolDecodeError ClaimRef := do
  let value ← requireValue args field
  parseClaimRef value field

def optionalClaimRef (args : Value) (field : String) :
    Except ToolDecodeError (Option ClaimRef) :=
  match args.get field with
  | some value => (parseClaimRef value field).map some
  | none => .ok none

/-- A string that names one of the values of a type. -/
def requireNamed {α : Type} (kind : String) (named : String → Option α) (args : Value)
    (field : String) : Except ToolDecodeError α := do
  let other ← requireString args field
  match named other with
  | some value => .ok value
  | none => .error ⟨.invalidArgumentValue,
      field ++ ": unknown " ++ kind ++ " '" ++ other ++ "'"⟩

def requireClaimKind : Value → String → Except ToolDecodeError ClaimKind :=
  requireNamed "claim kind" fun
    | "item" => some .item
    | "proposal" => some .proposal
    | "fact" => some .fact
    | "conditional" => some .conditional
    | "value" => some .value
    | "reference" => some .reference
    | _ => none

def requireRelationKind : Value → String → Except ToolDecodeError RelationKind :=
  requireNamed "relation kind" fun
    | "attacks" => some .attacks
    | "supports" => some .supports
    | _ => none

def requirePosition : Value → String → Except ToolDecodeError Position :=
  requireNamed "position" fun
    | "block" => some .block
    | "object" => some .object
    | "stand_aside" => some .standAside
    | "abstain" => some .abstain
    | "consent" => some .consent
    | "support" => some .support
    | "champion" => some .champion
    | _ => none

def requireOutcome : Value → String → Except ToolDecodeError Outcome :=
  requireNamed "outcome" fun
    | "accepted" => some .accepted
    | "rejected" => some .rejected
    | "tabled" => some .tabled
    | "withdrawn" => some .withdrawn
    | _ => none

/-! ### Decoding -/

/-- Decode the arguments of a named tool. -/
def decodeArguments (name : String) (args : Value) : Except ToolDecodeError AppTool :=
  match name with
  | "overview" => .ok .overview
  | "claim_detail" => do
      let claimId ← requireString args "claim_id"
      return .claimDetail ⟨claimId⟩
  | "show_drafts" => .ok .showDrafts
  | "preview_overview" => .ok .previewOverview
  | "preview_claim_detail" => do
      let claim ← requireClaimRef args "claim"
      return .previewClaimDetail claim
  | "impact_analysis" => .ok .impactAnalysis
  | "draft_claim" => do
      let body ← requireString args "body"
      let kind ← requireClaimKind args "kind"
      let parent ← optionalClaimRef args "parent"
      return .draftClaim body kind parent
  | "draft_relation" => do
      let source ← requireClaimRef args "source"
      let target ← requireClaimRef args "target"
      let kind ← requireRelationKind args "kind"
      return .draftRelation source target kind
  | "draft_stance" => do
      let target ← requireClaimRef args "target"
      let position ← requirePosition args "position"
      return .draftStance target position
  | "draft_resolve" => do
      let claim ← requireClaimRef args "claim"
      let outcome ← requireOutcome args "outcome"
      return .draftResolve claim outcome
  | "draft_comment" => do
      let body ← requireString args "body"
      let claim ← optionalClaimRef args "claim"
      return .draftComment body claim
  | "remove_draft" => do
      let draftId ← requireU64 args "draft_id"
      return .removeDraft draftId
  | _ => .error ⟨.unknownTool, "unknown tool: " ++ name⟩

/-- Decode a tool call; `fromStr` parses the text of a JSON value. -/
def decodeToolCall (fromStr : String → Except String Value) (raw : RawToolCall) :
    Except ToolDecodeError AppTool :=
  if raw.callType ≠ "function" then
    .error ⟨.invalidArgumentValue, "unsupported tool call type: " ++ raw.callType⟩
  else
    match fromStr raw.function.arguments with
    | .ok args => decodeArguments raw.function.name args
    | .error error =>
        .error ⟨.invalidJsonArguments, "invalid tool call arguments: " ++ error⟩

/-! ### Tool definitions -/

/-- The tools that the browser app advertises to the model. -/
def toolDefinitions : List ToolDef :=
  Tools.commonToolDefinitions ++
  [{ name := "preview_overview"
     description :=
       "Show the overview that would result if the current local drafts were committed right " ++
       "now."
     parameters := Tools.emptyParams },
   { name := "preview_claim_detail"
     description :=
       "Show the detailed view that would result for a claim if the current local drafts were " ++
       "committed right now."
     parameters := Tools.objectParams
       [("claim", Tools.claimRefParam (
           "The committed or draft-local claim to preview. Use claim:<id> or draft:<id>."))]
       ["claim"] },
   { name := "impact_analysis"
     description :=
       "Show what structural changes the current local drafts would cause if committed now, " ++
       "including new claims and status changes."
     parameters := Tools.emptyParams }]

/-- Both clients advertise tools of the same names. -/
theorem toolNames_eq_llmToolNames :
    toolDefinitions.map (·.name) = Tools.llmToolDefinitions.map (·.name) := rfl

end AppTools

end ProstheticConscience.Consensus
