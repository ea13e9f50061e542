/-
Module: ProstheticConscience.Consensus.LlmTurn
Purpose: Turn logic of the terminal client: request construction, the processing of one response
  with its tool calls, and the confirmation of a draft mutation.
Trusted boundary: none
Main exports: TurnConfig, TurnStep, LlmTurn.traceToolCalls, LlmTurn.isDraftMutationTool,
  LlmTurn.synthesizeMutationFollowUp, LlmTurn.processLlmResponse, LlmTurn.buildInitialRequest
-/
import ProstheticConscience.Consensus.Conversation
import ProstheticConscience.Consensus.Format
import ProstheticConscience.Consensus.Tools

namespace ProstheticConscience.Consensus

structure ToolExecutionTrace where
  callId : String
  functionName : String
  argumentsJson : String
  parsedArguments : Option Value
  argumentParseError : Option String
  toolResultContent : String
  dispatchError : Option String
deriving DecidableEq, Repr

structure LlmRoundTrace where
  round : Nat
  requestHistoryMessages : Nat
  requestMessages : Nat
  responseChunks : Nat
  assistantMessage : Option CompletedAssistantMessage
  toolResults : List ToolExecutionTrace
  error : Option String
deriving DecidableEq, Repr

/-- The result of processing one response, one round of the tool loop. -/
inductive TurnStep where
  | final (message : CompletedAssistantMessage) (roundTrace : LlmRoundTrace)
  | needsRequest (payload : Value) (roundTrace : LlmRoundTrace)
  | maxRoundsExceeded (roundTrace : LlmRoundTrace)
deriving DecidableEq, Repr

structure TurnConfig where
  round : Nat
  maxRounds : Nat
  maxHistory : Nat
  model : String
  participant : String
deriving DecidableEq, Repr

namespace LlmTurn

def maxToolRounds : Nat := 8

def maxCompletionTokens : Nat := 512

/-! ### Request construction -/

def buildSystemPrompt (order : HashOrder) (participant : String) (engine : ConsensusEngine) :
    String :=
  let impact :=
    match order.impactAnalysis engine.log engine.drafts engine.draftAuthor with
    | .ok impact => formatImpactAnalysis impact
    | .error error => "Impact analysis unavailable: " ++ error.message
  Consensus.buildSystemPrompt {
    participant
    overview := formatOverview (order.overviewFromEntries engine.log)
    drafts := formatDrafts engine.showDrafts
    impact := some impact
    tools := Tools.formatToolDefinitions Tools.llmToolDefinitions }

def toolDefinitionsJson : List Value :=
  Tools.toolDefinitionsJson Tools.llmToolDefinitions

def buildRequestPayload (order : HashOrder) (model participant : String)
    (engine : ConsensusEngine) (history : List Value) : Value :=
  Conversation.requestPayload model (buildSystemPrompt order participant engine) history
    toolDefinitionsJson maxCompletionTokens

/-- The request payload of the first round, and the truncated history it is built from. -/
def buildInitialRequest (order : HashOrder) (model participant : String)
    (engine : ConsensusEngine) (history : List Value) (maxHistory : Nat) : Value × List Value :=
  let history := Conversation.truncateHistory history maxHistory
  (buildRequestPayload order model participant engine history, history)

/-! ### Tool calls -/

/-- What the model is told about an error. -/
def errorContent (error : String) : String :=
  "\x7b\"error\":\"" ++ error ++ "\"\x7d"

/-- Execute one tool call of a response: its trace, and the engine after it. -/
def traceToolCall (json : JsonText) (order : HashOrder) (engine : ConsensusEngine)
    (call : RawToolCall) : ToolExecutionTrace × ConsensusEngine :=
  let parsed := json.fromStr call.function.arguments
  let (result, next) := Tools.runToolCall json.fromStr order engine call.function
  let (content, dispatchError) :=
    match result with
    | .ok value => (json.toStringPretty value, none)
    | .error error => (errorContent error.message, some error.message)
  ({ callId := call.id
     functionName := call.function.name
     argumentsJson := call.function.arguments
     parsedArguments := parsed.toOption
     argumentParseError := match parsed with
      | .ok _ => none
      | .error error => some error
     toolResultContent := content
     dispatchError }, next)

/-- Execute the tool calls of a response in order. -/
def traceToolCalls (json : JsonText) (order : HashOrder) (engine : ConsensusEngine) :
    List RawToolCall → List ToolExecutionTrace × ConsensusEngine
  | [] => ([], engine)
  | call :: rest =>
      let (trace, next) := traceToolCall json order engine call
      let (traces, last) := traceToolCalls json order next rest
      (trace :: traces, last)

/-! ### Draft mutations -/

/-- Whether the named tool mutates the draft buffer. -/
def isDraftMutationTool (functionName : String) : Bool :=
  ["draft_claim", "draft_relation", "draft_stance", "draft_resolve", "draft_comment",
    "remove_draft"].contains functionName

/-- The call succeeded and was to a draft mutation tool. -/
def mutatesDrafts (execution : ToolExecutionTrace) : Bool :=
  execution.dispatchError.isNone && isDraftMutationTool execution.functionName

def describeClaimRef (order : HashOrder) (engine : ConsensusEngine) (claim : ClaimRef) : String :=
  match order.previewClaimDetail engine.log engine.drafts engine.draftAuthor claim with
  | .ok (some detail) => "\"" ++ detail.claim.body ++ "\""
  | _ => "that idea"

/-- What a tool call says in a member of its arguments that names a claim. -/
def describeArgument (order : HashOrder) (engine : ConsensusEngine) (arguments : Value)
    (field fallback : String) : String :=
  (((arguments.get field).bind ClaimRef.fromJsonValue).map
    (describeClaimRef order engine)).getD fallback

def updatedConfirmation : String :=
  "I've updated the pending draft. It's still only local for now, so we can adjust it before " ++
  "you submit it."

def relationVerb : Option String → String
  | some "attacks" => "challenges"
  | _ => "supports"

def stanceVerb : Option String → String
  | some "consent" => "agree with"
  | some "support" => "support"
  | some "champion" => "strongly back"
  | some "object" => "object to"
  | some "block" => "block"
  | some "abstain" => "abstain on"
  | some "stand_aside" => "stand aside on"
  | _ => "take a position on"

def outcomeWord : Option String → String
  | some "accepted" => "accepted"
  | some "rejected" => "rejected"
  | some "tabled" => "tabled"
  | some "withdrawn" => "withdrawn"
  | _ => "resolved"

def renderMutationConfirmation (order : HashOrder) (engine : ConsensusEngine)
    (execution : ToolExecutionTrace) : String :=
  match execution.parsedArguments with
  | none => updatedConfirmation
  | some arguments =>
      let describe := describeArgument order engine arguments
      match execution.functionName with
      | "draft_claim" =>
          "I've prepared a draft for \"" ++ (strMember arguments "body").getD "that idea" ++
          "\". It's still only a local draft, so we can adjust the wording before you submit it."
      | "draft_relation" =>
          "I've prepared a draft saying that " ++ describe "source" "the first idea" ++ " " ++
          relationVerb (strMember arguments "kind") ++ " " ++
          describe "target" "the second idea" ++
          ". It's still only a local draft, so we can refine that connection before you " ++
          "submit it."
      | "draft_stance" =>
          "I've noted that you " ++ stanceVerb (strMember arguments "position") ++ " " ++
          describe "target" "that idea" ++
          ". It's still only a local draft, so we can adjust the strength or wording before " ++
          "you submit it."
      | "draft_resolve" =>
          "I've prepared a draft to mark " ++ describe "claim" "that proposal" ++ " as " ++
          outcomeWord (strMember arguments "outcome") ++
          ". It's still only a local draft, so we can adjust it before you submit it."
      | "draft_comment" =>
          "I've prepared a draft note: \"" ++ (strMember arguments "body").getD "that note" ++
          "\". It's still only a local draft, so we can revise it before you submit it."
      | "remove_draft" =>
          "I've removed that pending draft. If you want, we can prepare a revised version instead."
      | _ => updatedConfirmation

/-- The confirmation of the last draft mutation of a round. -/
def synthesizeMutationFollowUp (order : HashOrder) (engine : ConsensusEngine)
    (toolResults : List ToolExecutionTrace) : CompletedAssistantMessage where
  content := some
    (match toolResults.reverse.find? mutatesDrafts with
    | some execution => renderMutationConfirmation order engine execution
    | none => updatedConfirmation)
  toolCalls := []
  finishReason := some .stop

/-! ### Processing a response -/

/-- The outcome of processing a response, with the engine and the history it leaves. -/
structure Processed where
  step : Except AssemblerError TurnStep
  engine : ConsensusEngine
  history : List Value
deriving DecidableEq

def toolMessage (execution : ToolExecutionTrace) : Value :=
  toolResultMessage execution.callId execution.toolResultContent

/-- The trace of a round before its response is looked at. -/
def startTrace (chunks history : List Value) (config : TurnConfig) : LlmRoundTrace where
  round := config.round
  requestHistoryMessages := history.length
  requestMessages := history.length + 1
  responseChunks := chunks.length
  assistantMessage := none
  toolResults := []
  error := none

/-- Run the tool calls of a message that is in the history already, and go on from there. -/
def dispatchToolCalls (json : JsonText) (order : HashOrder) (engine : ConsensusEngine)
    (history : List Value) (config : TurnConfig) (roundTrace : LlmRoundTrace)
    (calls : List RawToolCall) : Processed :=
  let (toolResults, engine) := traceToolCalls json order engine calls
  let roundTrace := { roundTrace with toolResults }
  let history := history ++ toolResults.map toolMessage
  if toolResults.any mutatesDrafts then
    let finalMessage := synthesizeMutationFollowUp order engine toolResults
    { step := .ok (.final finalMessage roundTrace)
      engine
      history := history ++ [assistantMessageValue finalMessage] }
  else
    let history := Conversation.truncateHistory history config.maxHistory
    let payload := buildRequestPayload order config.model config.participant engine history
    { step := .ok (.needsRequest payload roundTrace), engine, history }

/-- Process the chunks of one inference call and advance the turn.  The terminal client runs on
64 bits. -/
def processLlmResponse (json : JsonText) (order : HashOrder) (chunks : List Value)
    (engine : ConsensusEngine) (history : List Value) (config : TurnConfig) : Processed :=
  let roundTrace := startTrace chunks history config
  match assemble 64 chunks with
  | .error error => { step := .error error, engine, history }
  | .ok message =>
      let roundTrace := { roundTrace with assistantMessage := some message }
      let history := history ++ [assistantMessageValue message]
      if message.toolCalls.isEmpty then
        { step := .ok (.final message roundTrace), engine, history }
      else if config.round ≥ config.maxRounds then
        let error := "max tool rounds (" ++ toString config.maxRounds ++ ") exceeded"
        { step := .ok (.maxRoundsExceeded { roundTrace with error := some error })
          engine
          history }
      else dispatchToolCalls json order engine history config roundTrace message.toolCalls

end LlmTurn

end ProstheticConscience.Consensus
