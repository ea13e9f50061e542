/-
Module: ProstheticConscience.Consensus.BrowserConversation
Purpose: The reducer of the browser app: the requests that it emits, the batches of tool calls that
  it executes, and the conversation history over whole runs.
Trusted boundary: none
Main exports: BrowserApp.Event, BrowserApp.reduce, BrowserApp.run, BrowserApp.requested,
  BrowserApp.Asks, BrowserApp.SoundStep, BrowserApp.conversation_stays_wellFormed
-/
import ProstheticConscience.Consensus.Dialogue
import ProstheticConscience.Consensus.Format
import ProstheticConscience.Consensus.ToolExecution

namespace ProstheticConscience.Consensus.BrowserApp

open Conversation (AnsweredHistory WellFormed historyToJson systemMessage)

inductive Event where
  | conversationEvent (event : Conversation.Event)
  | draftsEvent (event : Drafts.Event)
  | coordinatorEvent (event : Coordinator.Event Entry)

/-! ### Requests -/

section Requests

variable (order : HashOrder) (state : State)

def buildSystemPrompt : String :=
  let impact :=
    match impactAnalysis order state with
    | .ok impact => formatImpactAnalysis impact
    | .error error => "Impact analysis unavailable: " ++ error.message
  Consensus.buildSystemPrompt {
    participant := state.participant
    overview := formatOverview (order.overviewFromEntries state.coordinator.committedPrefix)
    drafts := formatDrafts (Drafts.showDrafts state.drafts)
    impact := some impact
    tools := Tools.formatToolDefinitions AppTools.toolDefinitions }

def buildRequestPayload : Value :=
  let serializedHistory := historyToJson state.conversation.history
  let truncatedHistory :=
    Conversation.truncateHistory serializedHistory state.conversationConfig.maxHistory
  Conversation.requestPayload state.conversationConfig.model (buildSystemPrompt order state)
    truncatedHistory (Tools.toolDefinitionsJson AppTools.toolDefinitions)
    state.conversationConfig.maxTokens

end Requests

/-! ### Tool results -/

def toolCallErrorMessage : ToolCallError → String
  | .decode error => error.message
  | .execution error => error.message

def formatToolCallOutcome (json : JsonText) (outcome : ToolCallOutcome) : String :=
  json.toStringPretty
    (match outcome with
    | .success output => toolOutputValue output
    | .error error => .ofMembers [("error", .string (toolCallErrorMessage error))])

def toolExecutionToToolResult (json : JsonText) (execution : ToolExecution) :
    Conversation.ToolResult where
  toolCallId := execution.callId
  content := formatToolCallOutcome json execution.outcome

/-! ### Reducers -/

section Reducers

variable (json : JsonText) (order : HashOrder) (state : State)

def reduceDraftsEvent (event : Drafts.Event) : Transition where
  state := { state with drafts := Drafts.reduce state.drafts event }
  effects := []

def reduceExecuteToolCalls (calls : List RawToolCall) (effects : List Effect) : Transition :=
  let batch := executeToolCalls order state json.fromStr calls
  let toolResults := batch.outcomes.map (toolExecutionToToolResult json)
  let next :=
    { batch.state with
      conversation := Conversation.withToolResults batch.state.conversation toolResults }
  { state := next
    effects :=
      if batch.domainMutated then effects
      else effects ++ [.requestChatCompletion (buildRequestPayload order next)] }

/-- The browser runs on 32 bits. -/
def reduceConversationEvent (event : Conversation.Event) : Transition :=
  let transition := Conversation.reduce 32 state.conversation event
  let next := { state with conversation := transition.state }
  let effects := transition.effects.map .conversationEffect
  match transition.request with
  | some .chatCompletion =>
      { state := next
        effects := effects ++ [.requestChatCompletion (buildRequestPayload order next)] }
  | some (.executeToolCalls calls) => reduceExecuteToolCalls json order next calls effects
  | none => { state := next, effects }

def reduce : Event → Transition
  | .conversationEvent event => reduceConversationEvent json order state event
  | .draftsEvent event => reduceDraftsEvent state event
  | .coordinatorEvent event => reduceCoordinatorEvent state event

/-- The state after a sequence of events; hash maps may be ordered anew at each of them. -/
def run (events : List (HashOrder × Event)) : State :=
  events.foldl (fun current event => (reduce json event.1 current event.2).state) state

end Reducers

/-! ### What a batch of calls does -/

/-- The outputs of the tools that change the drafts. -/
def ToolOutput.changesDrafts : ToolOutput → Bool
  | .draftClaim _ | .draftRelation _ | .draftStance _ | .draftResolve _ | .draftComment _
  | .removeDraft _ => true
  | _ => false

/-- A call to a tool that changes the drafts succeeded. -/
def ToolExecution.changesDrafts (execution : ToolExecution) : Bool :=
  match execution.outcome with
  | .success output => output.changesDrafts
  | .error _ => false

/-- A tool either leaves the state as it is or changes the drafts in it. -/
inductive ToolEffect (state : State) : State × ToolOutput × Bool → Prop where
  | queried {output : ToolOutput} (query : output.changesDrafts = false) :
      ToolEffect state (state, output, false)
  | drafted {output : ToolOutput} (changes : output.changesDrafts = true)
      (drafts : Drafts.State) : ToolEffect state ({ state with drafts }, output, true)

theorem ToolEffect.of_map {α : Type} {state : State} {result : Except EngineError α}
    {f : α → State × ToolOutput × Bool} (effect : ∀ value, ToolEffect state (f value)) :
    Yields (ToolEffect state) (result.map f) := by
  cases result with
  | error error =>
      intro value same
      cases same
  | ok value => exact .ok (effect value)

theorem executeTool_effect (order : HashOrder) (state : State) (tool : AppTool) :
    Yields (ToolEffect state) (executeTool order state tool) := by
  cases tool with
  | overview => exact .ok (.queried rfl)
  | claimDetail claimId => exact .ok (.queried rfl)
  | showDrafts => exact .ok (.queried rfl)
  | previewOverview => exact .of_map fun data => .queried rfl
  | previewClaimDetail claim => exact .of_map fun detail => .queried rfl
  | impactAnalysis => exact .of_map fun impact => .queried rfl
  | draftClaim body kind parent => exact .of_map fun result => .drafted rfl result.1
  | draftRelation source target kind => exact .of_map fun result => .drafted rfl result.1
  | draftStance target position => exact .of_map fun result => .drafted rfl result.1
  | draftResolve claim outcome => exact .of_map fun result => .drafted rfl result.1
  | draftComment body claim => exact .of_map fun result => .drafted rfl result.1
  | removeDraft draftId => exact .of_map fun drafts => .drafted rfl drafts

/-- A call leaves the conversation alone and reports whether it changed the drafts. -/
structure CallEffect (state : State) (result : ToolCallOutcome × Bool × State) : Prop where
  conversation : result.2.2.conversation = state.conversation
  mutated : ∀ callId, result.2.1 = ToolExecution.changesDrafts { callId, outcome := result.1 }

theorem executeToolCall_effect (order : HashOrder) (state : State)
    (fromStr : String → Except String Value) (call : RawToolCall) :
    CallEffect state (executeToolCall order state fromStr call) := by
  unfold executeToolCall
  cases AppTools.decodeToolCall fromStr call with
  | error error => exact ⟨rfl, fun _ => rfl⟩
  | ok tool =>
      have effect := executeTool_effect order state tool
      dsimp only
      cases result : executeTool order state tool with
      | error error => exact ⟨rfl, fun _ => rfl⟩
      | ok executed =>
          cases effect executed result with
          | queried query => exact ⟨rfl, fun _ => query.symm⟩
          | drafted changes drafts => exact ⟨rfl, fun _ => changes.symm⟩

/-- A batch leaves the conversation alone, answers every call, and reports whether one of them
changed the drafts. -/
structure BatchEffect (state : State) (calls : List RawToolCall) (batch : ToolBatchExecution) :
    Prop where
  conversation : batch.state.conversation = state.conversation
  callIds : batch.outcomes.map (·.callId) = calls.map (·.id)
  domainMutated : batch.domainMutated = batch.outcomes.any ToolExecution.changesDrafts

theorem executeToolCalls_effect (order : HashOrder) (state : State)
    (fromStr : String → Except String Value) (calls : List RawToolCall) :
    BatchEffect state calls (executeToolCalls order state fromStr calls) := by
  induction calls using List.reverseRecOn with
  | nil => exact ⟨rfl, rfl, rfl⟩
  | append_singleton calls call ih =>
      unfold executeToolCalls at ih ⊢
      rw [List.foldl_concat]
      generalize calls.foldl _ _ = batch at ih ⊢
      have effect := executeToolCall_effect order batch.state fromStr call
      constructor
      · exact effect.conversation.trans ih.conversation
      · simp [ih.callIds]
      · simp [ih.domainMutated, effect.mutated call.id]

/-! ### The history over a run

The invariant is that of the history: it begins with what the user said, calls are answered by the
batch that follows them, and a request is made only when nothing is left unanswered. One case per
event. -/

def Effect.payload? : Effect → Option Value
  | .requestChatCompletion payload => some payload
  | _ => none

/-- The payloads of the requests among the effects. -/
def requested (effects : List Effect) : List Value :=
  effects.filterMap Effect.payload?

/-- The messages of a payload are the system message and the truncated history, which is a
well-formed end of the history. -/
def SoundPayload (order : HashOrder) (state : State) (payload : Value) : Prop :=
  let messages := Conversation.truncateHistory (historyToJson state.conversation.history)
    state.conversationConfig.maxHistory
  payload.get "messages" =
      some (.array (systemMessage (buildSystemPrompt order state) :: messages)) ∧
    messages <:+ historyToJson state.conversation.history ∧ WellFormed messages

/-- The state in which the tool calls of a completion are executed. -/
def heard (state : State) (message : CompletedAssistantMessage) : State :=
  { state with
    conversation := state.conversation.push (.assistant message.content message.toolCalls) }

/-- The events upon which a completion is requested: a user prompt, and a completion that decodes
and brings tool calls of which none succeeds in changing the drafts. -/
def Asks (json : JsonText) (order : HashOrder) (state : State) : Event → Prop
  | .conversationEvent (.userPromptReceived _) => True
  | .conversationEvent (.chatCompletionReceived chunks) =>
      ∃ message, assemble 32 chunks = .ok message ∧ message.toolCalls ≠ [] ∧
        ∀ execution ∈
            (executeToolCalls order (heard state message) json.fromStr message.toolCalls).outcomes,
          execution.changesDrafts = false
  | _ => False

/-- What an event does to the conversation, and which requests it leads to. -/
structure SoundStep (json : JsonText) (order : HashOrder) (state : State) (event : Event) :
    Prop where
  history : AnsweredHistory (reduce json order state event).state.conversation.history
  payloads : ∀ payload ∈ requested (reduce json order state event).effects,
    SoundPayload order (reduce json order state event).state payload
  atMostOne : (requested (reduce json order state event).effects).length ≤ 1
  emitted : requested (reduce json order state event).effects ≠ [] ↔ Asks json order state event

theorem buildRequestPayload_sound (order : HashOrder) {state : State}
    (answered : AnsweredHistory state.conversation.history) :
    SoundPayload order state (buildRequestPayload order state) := by
  refine ⟨?_, ?_, ?_⟩
  · simp [buildRequestPayload, Conversation.requestPayload, Value.get_ofMembers, List.lookup_cons]
  · exact Conversation.truncateHistory_suffix _ _
  · exact answered.toJson.truncateHistory _

theorem requested_coordinatorEffects (effects : List Coordinator.Effect) :
    requested (effects.map .coordinatorEffect) = [] := by
  rw [requested, List.filterMap_map, List.filterMap_eq_nil_iff]
  intro effect _
  rfl

section Steps

variable {json : JsonText} {order : HashOrder} {state : State} {event : Event}

/-- An event that leads to no request. -/
theorem SoundStep.silent
    (answered : AnsweredHistory (reduce json order state event).state.conversation.history)
    (silent : requested (reduce json order state event).effects = [])
    (asks : ¬Asks json order state event) : SoundStep json order state event where
  history := answered
  payloads := by simp [silent]
  atMostOne := by simp [silent]
  emitted := by simp [silent, asks]

/-- An event that leads to the request built from the state after it. -/
theorem SoundStep.requests
    (answered : AnsweredHistory (reduce json order state event).state.conversation.history)
    (payload : requested (reduce json order state event).effects =
      [buildRequestPayload order (reduce json order state event).state])
    (asks : Asks json order state event) : SoundStep json order state event where
  history := answered
  payloads := by
    rw [payload]
    intro sent member
    rw [List.mem_singleton.mp member]
    exact buildRequestPayload_sound order answered
  atMostOne := by simp [payload]
  emitted := by simp [payload, asks]

/-- A completion that does not decode leaves the state as it is. -/
theorem reduce_undecodable (json : JsonText) (order : HashOrder) (state : State)
    {chunks : List Value} {error : AssemblerError} (failed : assemble 32 chunks = .error error) :
    reduce json order state (.conversationEvent (.chatCompletionReceived chunks)) =
      { state
        effects := [.conversationEffect (.chatCompletionDecodeFailed error.message)] } := by
  simp [reduce, reduceConversationEvent, Conversation.reduce, failed]

/-- A completion that decodes is put into the history, and its tool calls are executed. -/
theorem reduce_decodable (json : JsonText) (order : HashOrder) (state : State)
    {chunks : List Value} {message : CompletedAssistantMessage}
    (assembled : assemble 32 chunks = .ok message) :
    reduce json order state (.conversationEvent (.chatCompletionReceived chunks)) =
      if message.toolCalls.isEmpty then { state := heard state message, effects := [] }
      else reduceExecuteToolCalls json order (heard state message) message.toolCalls [] := by
  have received :
      Conversation.reduce 32 state.conversation (.chatCompletionReceived chunks) =
        { state := state.conversation.push (.assistant message.content message.toolCalls)
          effects := []
          request :=
            if message.toolCalls.isEmpty then none
            else some (.executeToolCalls message.toolCalls) } := by
    simp only [Conversation.reduce, assembled]
  simp only [reduce, reduceConversationEvent, received]
  cases message.toolCalls.isEmpty <;> rfl

/-- A message that makes no calls goes into the history. -/
theorem answered_plain (answered : AnsweredHistory state.conversation.history)
    {message : Conversation.Message} (plain : message.utterance = .speaks []) :
    AnsweredHistory (state.conversation.push message).history := by
  unfold AnsweredHistory Conversation.State.push
  rw [List.map_append, List.map_singleton, plain]
  exact Answered.append answered (.batch [])

/-- An assistant message with the results of its calls. -/
theorem answered_batch (answered : AnsweredHistory state.conversation.history)
    (content : Option String) {calls : List RawToolCall} {results : List Conversation.ToolResult}
    (callIds : results.map (·.toolCallId) = calls.map (·.id)) :
    AnsweredHistory
      (Conversation.withToolResults (state.conversation.push (.assistant content calls))
        results).history := by
  have batch : Answered ((Conversation.Message.assistant content calls).utterance ::
      results.map fun result => .answers result.toolCallId) := by
    have answers : (results.map fun result => Utterance.answers result.toolCallId) =
        (calls.map (·.id)).map .answers := by
      rw [← callIds, List.map_map]
      rfl
    rw [answers]
    exact Answered.batch _
  unfold AnsweredHistory Conversation.withToolResults Conversation.State.push
  rw [List.append_assoc, List.map_append]
  apply Answered.append answered
  simpa [Function.comp_def, Conversation.Message.utterance] using batch

/-- A completion with tool calls asks for the next one when the batch reports no change. -/
theorem asks_iff {chunks : List Value} {message : CompletedAssistantMessage}
    (assembled : assemble 32 chunks = .ok message) (calls : message.toolCalls ≠ []) :
    Asks json order state (.conversationEvent (.chatCompletionReceived chunks)) ↔
      (executeToolCalls order (heard state message) json.fromStr
        message.toolCalls).domainMutated = false := by
  rw [(executeToolCalls_effect order _ json.fromStr _).domainMutated, List.any_eq_false]
  constructor
  · rintro ⟨other, decodes, _, unchanged⟩
    cases assembled.symm.trans decodes
    simpa using unchanged
  · intro unchanged
    exact ⟨message, assembled, calls, by simpa using unchanged⟩

/-- After a batch the history is answered again. -/
theorem reduceExecuteToolCalls_answered (answered : AnsweredHistory state.conversation.history)
    (message : CompletedAssistantMessage) (effects : List Effect) :
    AnsweredHistory (reduceExecuteToolCalls json order (heard state message) message.toolCalls
      effects).state.conversation.history := by
  have effect := executeToolCalls_effect order (heard state message) json.fromStr message.toolCalls
  unfold reduceExecuteToolCalls
  dsimp only
  rw [effect.conversation]
  apply answered_batch answered
  rw [List.map_map]
  exact effect.callIds

theorem reduce_completion_sound (answered : AnsweredHistory state.conversation.history)
    (chunks : List Value) :
    SoundStep json order state (.conversationEvent (.chatCompletionReceived chunks)) := by
  cases assembled : assemble 32 chunks with
  | error error =>
      have reduced := reduce_undecodable json order state assembled
      apply SoundStep.silent
      · rw [reduced]
        exact answered
      · rw [reduced]
        rfl
      · rintro ⟨message, decodes, _⟩
        cases assembled.symm.trans decodes
  | ok message =>
      have reduced := reduce_decodable json order state assembled
      by_cases noCalls : message.toolCalls = []
      · rw [if_pos (List.isEmpty_iff.mpr noCalls)] at reduced
        apply SoundStep.silent
        · rw [reduced]
          apply answered_plain answered
          rw [noCalls]
          rfl
        · rw [reduced]
          rfl
        · rintro ⟨other, decodes, calls, _⟩
          cases assembled.symm.trans decodes
          exact calls noCalls
      · rw [if_neg (mt List.isEmpty_iff.mp noCalls)] at reduced
        cases mutated : (executeToolCalls order (heard state message) json.fromStr
            message.toolCalls).domainMutated with
        | true =>
            apply SoundStep.silent
            · rw [reduced]
              exact reduceExecuteToolCalls_answered answered message []
            · rw [reduced, reduceExecuteToolCalls]
              simp [mutated, requested]
            · rw [asks_iff assembled noCalls, mutated]
              intro same
              cases same
        | false =>
            apply SoundStep.requests
            · rw [reduced]
              exact reduceExecuteToolCalls_answered answered message []
            · rw [reduced, reduceExecuteToolCalls]
              simp [mutated, requested, Effect.payload?]
            · rw [asks_iff assembled noCalls, mutated]

theorem reduce_sound (answered : AnsweredHistory state.conversation.history) (event : Event) :
    SoundStep json order state event := by
  cases event with
  | draftsEvent event => exact .silent answered rfl id
  | coordinatorEvent event => exact .silent answered (requested_coordinatorEffects _) id
  | conversationEvent event =>
      cases event with
      | userPromptReceived content => exact .requests (answered_plain answered rfl) rfl trivial
      | chatCompletionReceived chunks => exact reduce_completion_sound answered chunks

theorem run_answered (answered : AnsweredHistory state.conversation.history)
    (events : List (HashOrder × Event)) :
    AnsweredHistory (run json state events).conversation.history := by
  induction events generalizing state with
  | nil => exact answered
  | cons event later ih => exact ih (reduce_sound answered event.2).history

end Steps

/-- However prompts, completions, draft events and coordinator events come in, every tool call in
the history is answered, every request carries a well-formed end of the history, and requests are
emitted exactly when they are asked for. -/
theorem conversation_stays_wellFormed (json : JsonText) (participant : String)
    (latestEntryIndex : Option Nat) (config : ConversationConfig)
    (events : List (HashOrder × Event)) :
    let state := run json (init participant latestEntryIndex config).state events
    AnsweredHistory state.conversation.history ∧
      ∀ (order : HashOrder) (event : Event), SoundStep json order state event := by
  intro state
  have start : AnsweredHistory
      (init participant latestEntryIndex config).state.conversation.history := .nil
  have answered : AnsweredHistory state.conversation.history := run_answered start events
  exact ⟨answered, fun order event => reduce_sound answered event⟩

/-- A prompt, and a completion that calls a tool. -/
def listingEvents : List (HashOrder × Event) :=
  [(.insertion, .conversationEvent (.userPromptReceived "What is drafted?")),
    (.insertion, .conversationEvent (.chatCompletionReceived
      [toolCallChunk "call_1" "show_drafts" "\x7b\x7d"]))]

def listingText : JsonText where
  fromStr _ := .ok (.object [])
  toStringPretty value := if value = .array [] then "[]" else "null"

def listingState : State :=
  run listingText (init "ava" none { model := "m", maxHistory := 4, maxTokens := 9 }).state
    listingEvents

theorem listing_answered :
    listingState.conversation.history = [.user "What is drafted?",
        .assistant none [⟨"call_1", "function", ⟨"show_drafts", "\x7b\x7d"⟩⟩],
        .tool "call_1" "[]"] ∧
      AnsweredHistory listingState.conversation.history ∧
      SoundStep listingText .insertion listingState
        (.conversationEvent (.userPromptReceived "And now?")) := by
  obtain ⟨answered, steps⟩ := conversation_stays_wellFormed listingText "ava" none
    { model := "m", maxHistory := 4, maxTokens := 9 } listingEvents
  exact ⟨by decide +kernel, answered, steps .insertion _⟩

end ProstheticConscience.Consensus.BrowserApp
