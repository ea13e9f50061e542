/-
Module: ProstheticConscience.Consensus.Tools
Purpose: Tool dispatch of the terminal client: argument helpers, the dispatch from a tool name and
  JSON arguments to the engine's methods, and the tools that are advertised to the model.
Trusted boundary: none
Main exports: ClaimRef.fromJsonValue, ToolError, Tools.dispatch, Tools.runToolCall,
  Tools.toolDefinitions, Tools.llmToolDefinitions, Tools.toolDefinitionsJson
-/
import ProstheticConscience.Consensus.Queries
import ProstheticConscience.Consensus.Response

namespace ProstheticConscience.Consensus

/-! ### Claim references in JSON -/

/-- What follows a leading piece of text. -/
def stripStart (text start : String) : Option String :=
  (text.toList.dropPrefix? start.toList).map String.ofList

/-- Parse an unsigned 64-bit integer: decimal digits, perhaps after a plus sign. -/
def parseU64 (text : String) : Option Nat :=
  let digits := match text.toList with
    | '+' :: rest => rest
    | all => all
  if digits.isEmpty || !digits.all Char.isDigit then none
  else
    let value := digits.foldl (fun value digit => 10 * value + (digit.toNat - '0'.toNat)) 0
    if value < 2 ^ 64 then some value else none

/-- Parse a claim reference: `draft:<n>`, `#<n>`, `claim:<id>` or a bare id, or an object with
exactly one of `claim_id` and `draft_id`. -/
def ClaimRef.fromJsonValue (value : Value) : Option ClaimRef :=
  match value.asStr with
  | some raw =>
      match stripStart raw "draft:" with
      | some rest => (parseU64 rest).map .draft
      | none =>
          match stripStart raw "#" with
          | some rest => (parseU64 rest).map .draft
          | none =>
              match stripStart raw "claim:" with
              | some rest => some (.committed ⟨rest⟩)
              | none => some (.committed ⟨raw⟩)
  | none => do
      let _ ← value.asObject
      match (value.get "claim_id").bind Value.asStr, (value.get "draft_id").bind Value.asU64 with
      | some id, none => some (.committed ⟨id⟩)
      | none, some id => some (.draft id)
      | _, _ => none

/-- The three ways to write a reference as text. -/
example : ["#7", "draft:-7", "claim:c", "c"].map (fun raw => ClaimRef.fromJsonValue (.string raw)) =
    [some (.draft 7), none, some (.committed ⟨"c"⟩), some (.committed ⟨"c"⟩)] := by
  decide +kernel

/-! ### Errors -/

def DraftId.debug (draftId : DraftId) : String :=
  "DraftId(" ++ toString draftId ++ ")"

def EngineError.message : EngineError → String
  | .draftNotFound draftId => "draft not found: " ++ DraftId.debug draftId
  | .draftReferenceMustTargetClaim draftId =>
      "draft reference must target a claim: " ++ DraftId.debug draftId
  | .draftReferenced draftId referencedBy =>
      "cannot remove draft " ++ DraftId.debug draftId ++ " because draft " ++
        DraftId.debug referencedBy ++ " depends on it"

/-- Errors from tool dispatch.  Answers always serialize, so there is no serialization error. -/
inductive ToolError where
  | unknownTool (tool : String)
  | missingArgument (field : String)
  | invalidArgument (message : String)
  | engine (error : EngineError)
deriving DecidableEq, Repr

def ToolError.message : ToolError → String
  | .unknownTool tool => "unknown tool: " ++ tool
  | .missingArgument field => "missing required argument: " ++ field
  | .invalidArgument message => "invalid argument: " ++ message
  | .engine error => "engine error: " ++ error.message

namespace Tools

/-! ### Argument helpers -/

/-- A member that can be read in some way. -/
def require {α : Type} (read : Value → Option α) (args : Value) (field : String) :
    Except ToolError α :=
  match (args.get field).bind read with
  | some value => .ok value
  | none => .error (.missingArgument field)

def requireStr : Value → String → Except ToolError String :=
  require Value.asStr

def requireU64 : Value → String → Except ToolError Nat :=
  require Value.asU64

def parseClaimRef (value : Value) (field : String) : Except ToolError ClaimRef :=
  match ClaimRef.fromJsonValue value with
  | some claimRef => .ok claimRef
  | none => .error (.invalidArgument (field ++
      ": expected a claim reference string (claim:<id>, draft:<n>, #<n>) " ++
      "or an object with exactly one of claim_id or draft_id"))

def requireClaimRef (args : Value) (field : String) : Except ToolError ClaimRef :=
  match args.get field with
  | some value => parseClaimRef value field
  | none => .error (.missingArgument field)

def optionalClaimRef (args : Value) (field : String) : Except ToolError (Option ClaimRef) :=
  match args.get field with
  | some value => (parseClaimRef value field).map some
  | none => .ok none

/-- A string that names one of the values of a type. -/
def requireNamed {α : Type} (kind : String) (named : String → Option α) (args : Value)
    (field : String) : Except ToolError α := do
  let other ← requireStr args field
  match named other with
  | some value => .ok value
  | none => .error (.invalidArgument (field ++ ": unknown " ++ kind ++ " '" ++ other ++ "'"))

def requireClaimKind : Value → String → Except ToolError ClaimKind :=
  requireNamed "claim kind" fun
    | "item" => some .item
    | "proposal" => some .proposal
    | "fact" => some .fact
    | "conditional" => some .conditional
    | "value" => some .value
    | "reference" => some .reference
    | _ => none

def requireRelationKind : Value → String → Except ToolError RelationKind :=
  requireNamed "relation kind" fun
    | "attacks" => some .attacks
    | "supports" => some .supports
    | _ => none

def requirePosition : Value → String → Except ToolError Position :=
  requireNamed "position" fun
    | "block" => some .block
    | "object" => some .object
    | "stand_aside" => some .standAside
    | "abstain" => some .abstain
    | "consent" => some .consent
    | "support" => some .support
    | "champion" => some .champion
    | _ => none

def requireOutcome : Value → String → Except ToolError Outcome :=
  requireNamed "outcome" fun
    | "accepted" => some .accepted
    | "rejected" => some .rejected
    | "tabled" => some .tabled
    | "withdrawn" => some .withdrawn
    | _ => none

/-! ### Dispatch -/

/-- A query leaves the engine as it is. -/
def query {α : Type} (engine : ConsensusEngine) (result : Except EngineError α) :
    Except EngineError α × ConsensusEngine :=
  (result, engine)

/-- Report the result of a method, whose arguments may have failed to decode. -/
def report {α : Type} (engine : ConsensusEngine) (toValue : α → Value) :
    Except ToolError (Except EngineError α × ConsensusEngine) →
      Except ToolError Value × ConsensusEngine
  | .ok (result, next) => ((result.map toValue).mapError .engine, next)
  | .error error => (.error error, engine)

def draftIdAnswer (draftId : DraftId) : Value :=
  .ofMembers [("draft_id", DraftId.toValue draftId)]

def removedAnswer (draftId : DraftId) : Value :=
  .ofMembers [("removed", DraftId.toValue draftId)]

def submittedAnswer (entries : List Entry) : Value :=
  .ofMembers [("submitted", .number (.posInt entries.length)),
    ("entries", .array (entries.map Entry.toValue))]

def clearedAnswer (count : Nat) : Value :=
  .ofMembers [("cleared", .number (.posInt count))]

/-- Dispatch a tool call to the method of the engine that it names. -/
def dispatch (order : HashOrder) (engine : ConsensusEngine) (tool : String) (args : Value) :
    Except ToolError Value × ConsensusEngine :=
  match tool with
  | "overview" => report engine OverviewData.toValue do
      return query engine (.ok (order.overviewFromEntries engine.log))
  | "claim_detail" => report engine (nullable ClaimDetail.toValue) do
      let id ← requireStr args "claim_id"
      return query engine (.ok (order.claimDetail engine.log ⟨id⟩))
  | "draft_claim" => report engine draftIdAnswer do
      let body ← requireStr args "body"
      let kind ← requireClaimKind args "kind"
      let parent ← optionalClaimRef args "parent"
      return engine.draftClaim body kind parent
  | "draft_relation" => report engine draftIdAnswer do
      let source ← requireClaimRef args "source"
      let target ← requireClaimRef args "target"
      let kind ← requireRelationKind args "kind"
      return engine.draftRelation source target kind
  | "draft_stance" => report engine draftIdAnswer do
      let target ← requireClaimRef args "target"
      let position ← requirePosition args "position"
      return engine.draftStance target position
  | "draft_resolve" => report engine draftIdAnswer do
      let claim ← requireClaimRef args "claim"
      let outcome ← requireOutcome args "outcome"
      return engine.draftResolve claim outcome
  | "draft_comment" => report engine draftIdAnswer do
      let body ← requireStr args "body"
      let claim ← optionalClaimRef args "claim"
      return engine.draftComment body claim
  | "show_drafts" => report engine (fun drafts => .array (drafts.map DraftEntry.toValue)) do
      return query engine (.ok engine.showDrafts)
  | "remove_draft" => report engine removedAnswer do
      let draftId ← requireU64 args "draft_id"
      return (engine.removeDraft draftId).map (·.map fun _ => draftId) id
  | "submit_drafts" => report engine submittedAnswer do
      return engine.submitDrafts
  | "clear_drafts" => report engine clearedAnswer do
      return (.ok engine.showDrafts.length, engine.clearDrafts)
  | "preview_overview" => report engine OverviewData.toValue do
      return query engine (order.previewOverview engine.log engine.drafts engine.draftAuthor)
  | "preview_claim_detail" => report engine (nullable ClaimDetail.toValue) do
      let claim ← requireClaimRef args "claim"
      return query engine
        (order.previewClaimDetail engine.log engine.drafts engine.draftAuthor claim)
  | "impact_analysis" => report engine ImpactAnalysis.toValue do
      return query engine (order.impactAnalysis engine.log engine.drafts engine.draftAuthor)
  | _ => (.error (.unknownTool tool), engine)

/-- Why a call failed. -/
inductive CallError where
  | arguments (error : String)
  | tool (error : ToolError)
deriving DecidableEq, Repr

def CallError.message : CallError → String
  | .arguments error => "invalid tool call arguments: " ++ error
  | .tool error => error.message

/-- Parse the arguments of a call and dispatch it; `fromStr` parses the text of a JSON value. -/
def runToolCall (fromStr : String → Except String Value) (order : HashOrder)
    (engine : ConsensusEngine) (function : RawToolFunction) :
    Except CallError Value × ConsensusEngine :=
  match fromStr function.arguments with
  | .ok arguments =>
      let (result, next) := dispatch order engine function.name arguments
      (result.mapError .tool, next)
  | .error error => (.error (.arguments error), engine)

/-! ### Tool definitions -/

/-- Tool definition for the function calling format of the chat API. -/
structure ToolDef where
  name : String
  description : String
  parameters : Value
deriving DecidableEq, Repr

/-- The schema of an object with some properties, of which some are required. -/
def objectParams (properties : List (String × Value)) (required : List String) : Value :=
  .ofMembers [("type", .string "object"), ("properties", .ofMembers properties),
    ("required", .array (required.map .string))]

def emptyParams : Value :=
  objectParams [] []

/-- The schema of a scalar property. -/
def typedParam (type description : String) : Value :=
  .ofMembers [("type", .string type), ("description", .string description)]

/-- The schema of a string property with finitely many values. -/
def enumParam (values : List String) (description : String) : Value :=
  .ofMembers [("type", .string "string"), ("enum", .array (values.map .string)),
    ("description", .string description)]

def claimIdParam : Value :=
  objectParams [("claim_id", typedParam "string" "The claim identifier")] ["claim_id"]

def claimRefParam (description : String) : Value :=
  .ofMembers [("type", .string "string"), ("description", .string description),
    ("examples", .array [.string "claim:prop-hybrid", .string "draft:7"]),
    ("default", .string "claim:example-claim")]

/-- The first nine tools, which both clients describe in the same words. -/
def commonToolDefinitions : List ToolDef :=
  [{ name := "overview"
     description :=
       "Get a high-level overview of the current deliberation state including claims, " ++
       "proposals, stances, and attention signals."
     parameters := emptyParams },
   { name := "claim_detail"
     description :=
       "Get detailed information about a specific committed claim including its relations, " ++
       "stances, and epistemic status. Prefer this for exact factual questions, then answer in " ++
       "plain language rather than log jargon."
     parameters := claimIdParam },
   { name := "draft_claim"
     description :=
       "Record a new idea for later human review and submission on behalf of the current " ++
       "participant. The author is derived from the active participant automatically. In your " ++
       "follow-up, describe the idea naturally rather than naming internal log types unless " ++
       "the participant already used them."
     parameters := objectParams
       [("body", typedParam "string" "The claim text"),
         ("kind", enumParam ["item", "proposal", "fact", "conditional", "value", "reference"]
           "Type of claim"),
         ("parent", claimRefParam (
           "Optional parent claim reference. Use claim:<id> for committed claims or draft:<id> " ++
           "for a locally drafted claim."))]
       ["body", "kind"] },
   { name := "draft_relation"
     description :=
       "Record that one idea supports or attacks another on behalf of the current participant. " ++
       "References may target either committed claims or locally drafted claims. In " ++
       "conversation, explain the connection naturally rather than talking about graph edges " ++
       "or relation objects. If the participant refers to a concern or risk indirectly, " ++
       "inspect or clarify before choosing source and target."
     parameters := objectParams
       [("source", claimRefParam (
           "The claim making the attack/support. Use claim:<id> or draft:<id>.")),
         ("target", claimRefParam (
           "The claim being attacked/supported. Use claim:<id> or draft:<id>.")),
         ("kind", enumParam ["attacks", "supports"]
           "Relation type")]
       ["source", "target", "kind"] },
   { name := "draft_stance"
     description :=
       "Record the participant's own degree of agreement or disagreement with an idea, but " ++
       "only when they clearly want that view noted down now rather than merely thinking out " ++
       "loud. Use the weakest matching stance: consent for simple agreement, support for " ++
       "positive support without ownership, champion only for strong advocacy or leadership. " ++
       "In conversation, phrase this naturally, for example as noting agreement or objection."
     parameters := objectParams
       [("target", claimRefParam "The claim to take a stance on. Use claim:<id> or draft:<id>."),
         ("position", enumParam ["block", "object", "stand_aside", "abstain",
           "consent", "support", "champion"]
           ("Position on the claim: consent=simple agreement, support=positive support, " ++
            "champion=strong advocacy/leadership, object/block=disagreement"))]
       ["target", "position"] },
   { name := "draft_resolve"
     description :=
       "Record a proposed resolution for an idea on behalf of the current participant. In " ++
       "conversation, describe the decision plainly rather than using internal workflow jargon " ++
       "unless the participant asks for it."
     parameters := objectParams
       [("claim", claimRefParam "The proposal to resolve. Use claim:<id> or draft:<id>."),
         ("outcome", enumParam ["accepted", "rejected", "tabled", "withdrawn"]
           "Resolution outcome")]
       ["claim", "outcome"] },
   { name := "draft_comment"
     description :=
       "Record a concrete freeform note for the shared log on behalf of the current " ++
       "participant, optionally attached to a specific claim. Do not use this for advice, " ++
       "hypotheticals, or as a placeholder when the user is still exploring what they mean."
     parameters := objectParams
       [("body", typedParam "string" "Comment text"),
         ("claim", claimRefParam (
           "Optional related claim reference. Use claim:<id> or draft:<id>."))]
       ["body"] },
   { name := "show_drafts"
     description :=
       "Show all pending draft entries that have not yet been submitted. Use when you need to " ++
       "inspect or revise the current draft buffer, not after every mutation."
     parameters := emptyParams },
   { name := "remove_draft"
     description := "Remove a specific draft by its ID."
     parameters := objectParams
       [("draft_id", typedParam "number" "The draft ID to remove")]
       ["draft_id"] }]

/-- The definitions of all consensus tools. -/
def toolDefinitions : List ToolDef :=
  commonToolDefinitions ++
  [{ name := "submit_drafts"
     description :=
       "Submit all pending drafts to the deliberation. Returns the submitted entries and " ++
       "clears the draft buffer."
     parameters := emptyParams },
   { name := "clear_drafts"
     description := "Discard all pending drafts without submitting them."
     parameters := emptyParams },
   { name := "preview_overview"
     description :=
       "Preview the deliberation overview as it would look if all current drafts were " ++
       "submitted."
     parameters := emptyParams },
   { name := "preview_claim_detail"
     description :=
       "Preview a claim's detail as it would look if all current drafts were submitted. Prefer " ++
       "this for exact questions about a claim when pending drafts may matter."
     parameters := objectParams
       [("claim", claimRefParam (
           "The committed or draft-local claim to preview. Use claim:<id> or draft:<id>."))]
       ["claim"] },
   { name := "impact_analysis"
     description :=
       "Compare the current committed state with the state produced by applying all current " ++
       "drafts. Prefer this before answering \"what would change if\" questions about current " ++
       "drafts."
     parameters := emptyParams }]

/-- The tools that the terminal client advertises to the model. -/
def llmToolDefinitions : List ToolDef :=
  toolDefinitions.filter fun tool => !(["submit_drafts", "clear_drafts"].contains tool.name)

/-- The tools as lines of the system prompt. -/
def formatToolDefinitions (defs : List ToolDef) : String :=
  "\n".intercalate (defs.map fun tool => "- " ++ tool.name ++ ": " ++ tool.description)

/-- The tools as JSON for a request. -/
def toolDefinitionsJson (defs : List ToolDef) : List Value :=
  defs.map fun tool =>
    .ofMembers [("type", .string "function"),
      ("function", .ofMembers [("name", .string tool.name),
        ("description", .string tool.description), ("parameters", tool.parameters)])]

end Tools

end ProstheticConscience.Consensus
