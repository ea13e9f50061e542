/-
Module: ProstheticConscience.ConsensusCli.RequestSize
Purpose: The size of the requests that the terminal client and the browser app send: where the
  history limit can be kept, it is bounded by the limit and the length of the current turn.
Trusted boundary: none
Main exports: Conversation.Request, Conversation.Request.Bounded, ConsensusLlm.turnRequests,
  runTurnWithTrace_requests, runRequests, history_limit
-/
import ProstheticConscience.Consensus.BrowserConversation
import ProstheticConscience.Consensus.ToolBatch
import ProstheticConscience.Consensus.Truncation
import ProstheticConscience.ConsensusCli.Llm

namespace ProstheticConscience

open Consensus Conversation

namespace Consensus.Conversation

/-- A request with the history that it is built from, before it is truncated, and the messages of
the turn so far. -/
structure Request where
  history : List Value
  turn : List Value
  payload : Value

/-- The messages of a request. -/
def payloadMessages (payload : Value) : List Value :=
  ((payload.get "messages").bind Value.asArray).getD []

/-- The messages of a payload are the system message and the history it is built with. -/
theorem payloadMessages_requestPayload (model systemPrompt : String) (history tools : List Value)
    (maxTokens : Nat) :
    payloadMessages (requestPayload model systemPrompt history tools maxTokens) =
      systemMessage systemPrompt :: history := by
  simp [payloadMessages, requestPayload, Value.get_ofMembers, List.lookup_cons]

/-- The messages are the system message and the truncated history.  Where the limit can be kept
they are no more than the limit and the current turn together. -/
structure Request.Bounded (max : Nat) (request : Request) : Prop where
  messages : ∃ systemPrompt, payloadMessages request.payload =
    systemMessage systemPrompt :: truncateHistory request.history max
  turn : currentTurn request.history = request.turn
  size : Cuttable request.history max →
    (payloadMessages request.payload).length ≤ max + request.turn.length

/-- A payload built with a truncated history is bounded, and the turn is kept whole. -/
theorem Request.Bounded.of_payload {max : Nat} (positive : 1 ≤ max) {history turn : List Value}
    (current : currentTurn history = turn) (model systemPrompt : String) (tools : List Value)
    (maxTokens : Nat) :
    Request.Bounded max
      { history
        turn
        payload := requestPayload model systemPrompt (truncateHistory history max) tools
          maxTokens } where
  messages := ⟨systemPrompt, payloadMessages_requestPayload _ _ _ _ _⟩
  turn := current
  size := by
    intro cuttable
    rw [payloadMessages_requestPayload, List.length_cons, ← current]
    exact cuttable.request_le positive

end Consensus.Conversation

/-! ### The terminal client

Every request is made of a truncated history, also in the later rounds of a turn, where the messages
of the turn have been added; the current turn is the same in all of them. -/

namespace ConsensusCli

/-- What a response adds to the history in a round that goes on: its message, and the answers to
its calls. -/
def said (json : JsonText) (order : HashOrder) (engine : ConsensusEngine)
    (message : CompletedAssistantMessage) : List Value :=
  assistantMessageValue message ::
    (LlmTurn.traceToolCalls json order engine message.toolCalls).1.map LlmTurn.toolMessage

namespace ConsensusLlm

/-- The requests of the rounds after a response, in a turn with these messages so far. -/
def laterRequests (json : JsonText) (order : HashOrder) (llm : ConsensusLlm) :
    List Response → Nat → ConsensusEngine → List Value → List Value → List Request
  | .ok chunks :: rest, round, engine, history, turn =>
      let processed :=
        LlmTurn.processLlmResponse json order chunks engine history (llm.turnConfig round)
      match assemble 64 chunks, processed.step with
      | .ok message, .ok (.needsRequest payload _) =>
          let added := said json order engine message
          { history := history ++ added, turn := turn ++ added, payload } ::
            laterRequests json order llm rest (round + 1) processed.engine processed.history
              (turn ++ added)
      | _, _ => []
  | _, _, _, _, _ => []

/-- The requests of a turn, from the history before the user's line. -/
def turnRequests (json : JsonText) (order : HashOrder) (llm : ConsensusLlm)
    (engine : ConsensusEngine) (history : List Value) (line : String)
    (responses : List Response) : List Request :=
  let (payload, truncated) := LlmTurn.buildInitialRequest order llm.model llm.participant engine
    (history ++ [userMessage line]) llm.maxHistory
  { history := history ++ [userMessage line], turn := [userMessage line], payload } ::
    llm.laterRequests json order responses 0 engine truncated [userMessage line]

end ConsensusLlm

/-- A line of input, with the state of the app and the responses that its turn gets. -/
structure Input where
  order : HashOrder
  app : ConsensusApp
  line : String
  responses : List Response

def Input.requests (json : JsonText) (llm : ConsensusLlm) (history : List Value)
    (input : Input) : List Request :=
  let line := trim input.line
  if startsTurn input.app line then
    llm.turnRequests json input.order input.app.buffer.engine history line input.responses
  else []

/-- The requests of a run, line after line, from a history. -/
def runRequests (json : JsonText) (llm : ConsensusLlm) (debugToolTrace : Bool) :
    List Value → List Input → List Request
  | _, [] => []
  | history, input :: later =>
      input.requests json llm history ++
        match historyAfterInput json input.order llm debugToolTrace input.app history input.line
          input.responses with
        | some (after, _) => runRequests json llm debugToolTrace after later
        | none => []

variable {json : JsonText} {order : HashOrder} {llm : ConsensusLlm}

/-- A round that goes on truncates the history with what was said, and asks with what is left. -/
theorem processLlmResponse_needsRequest {chunks history : List Value} {engine : ConsensusEngine}
    {config : TurnConfig} {message : CompletedAssistantMessage} {payload : Value}
    {roundTrace : LlmRoundTrace} (assembled : assemble 64 chunks = .ok message)
    (goesOn : (LlmTurn.processLlmResponse json order chunks engine history config).step =
      .ok (.needsRequest payload roundTrace)) :
    message.toolCalls ≠ [] ∧
    (LlmTurn.processLlmResponse json order chunks engine history config).history =
      truncateHistory (history ++ said json order engine message) config.maxHistory ∧
    ∃ after, payload = LlmTurn.buildRequestPayload order config.model config.participant after
      (truncateHistory (history ++ said json order engine message) config.maxHistory) := by
  unfold LlmTurn.processLlmResponse at goesOn ⊢
  rw [assembled] at goesOn ⊢
  dsimp only at goesOn ⊢
  split at goesOn
  · cases goesOn
  · rename_i calls
    rw [if_neg calls]
    split at goesOn
    · cases goesOn
    · rename_i below
      rw [if_neg below]
      have joined : history ++ [assistantMessageValue message] ++
          (LlmTurn.traceToolCalls json order engine message.toolCalls).1.map
            LlmTurn.toolMessage = history ++ said json order engine message :=
        List.append_assoc _ _ _
      unfold LlmTurn.dispatchToolCalls at goesOn ⊢
      dsimp only at goesOn ⊢
      rw [joined] at goesOn ⊢
      split at goesOn
      · cases goesOn
      · rename_i unmutated
        rw [if_neg unmutated]
        cases goesOn
        exact ⟨mt List.isEmpty_iff.mpr calls, rfl, _, rfl⟩

/-- Nothing that is said along with tool calls is a clean boundary. -/
theorem said_busy {message : CompletedAssistantMessage} (calls : message.toolCalls ≠ [])
    (engine : ConsensusEngine) :
    ∀ other ∈ said json order engine message, ¬CleanBoundary other := by
  intro other member
  apply not_cleanBoundary
  rcases List.mem_cons.mp member with rfl | answer
  · rw [assistantMessageValue, utterance_assistantValue]
    simpa using calls
  · obtain ⟨execution, _, rfl⟩ := List.mem_map.mp answer
    rw [LlmTurn.toolMessage, utterance_toolResultMessage]
    simp

/-- The requests of later rounds are bounded; by the recursion of the rounds, with the current turn
as the invariant. -/
theorem laterRequests_bounded (positive : 1 ≤ llm.maxHistory) (responses : List Response)
    (round : Nat) (engine : ConsensusEngine) {history turn : List Value}
    (nonempty : history ≠ []) (current : currentTurn history = turn) :
    ∀ request ∈ llm.laterRequests json order responses round engine history turn,
      request.Bounded llm.maxHistory := by
  induction responses generalizing round engine history turn with
  | nil => simp [ConsensusLlm.laterRequests]
  | cons response rest ih =>
      cases response with
      | error error => simp [ConsensusLlm.laterRequests]
      | ok chunks =>
          rw [ConsensusLlm.laterRequests]
          dsimp only
          split
          · rename_i message payload roundTrace assembled goesOn
            obtain ⟨calls, truncated, after, asks⟩ :=
              processLlmResponse_needsRequest assembled goesOn
            have grown : currentTurn (history ++ said json order engine message) =
                turn ++ said json order engine message := by
              rw [currentTurn_append nonempty (said_busy calls engine), current]
            have longer : history ++ said json order engine message ≠ [] :=
              List.append_ne_nil_of_left_ne_nil nonempty _
            intro request member
            rcases List.mem_cons.mp member with rfl | later
            · rw [asks]
              exact .of_payload positive grown _ _ _ _
            · rw [truncated] at later
              exact ih _ _ (truncateHistory_ne_nil _ longer)
                ((currentTurn_truncateHistory _ _).trans grown) request later
          · simp

/-- The requests of a turn are bounded. -/
theorem turnRequests_bounded (positive : 1 ≤ llm.maxHistory) (engine : ConsensusEngine)
    (history : List Value) (line : String) (responses : List Response) :
    ∀ request ∈ llm.turnRequests json order engine history line responses,
      request.Bounded llm.maxHistory := by
  have current : currentTurn (history ++ [userMessage line]) = [userMessage line] := by
    rw [currentTurn_append_of_boundary]
    · exact currentTurn_cons _ (by simp)
    · exact ⟨_, List.mem_singleton_self _, cleanBoundary_userMessage line⟩
  intro request member
  rcases List.mem_cons.mp member with rfl | later
  · exact .of_payload positive current _ _ _ _
  · apply laterRequests_bounded positive responses 0 engine _ _ request later
    · exact truncateHistory_ne_nil _ (by simp)
    · exact (currentTurn_truncateHistory _ _).trans current

/-- The requests of any inputs are bounded; by induction on them. -/
theorem runRequests_bounded (positive : 1 ≤ llm.maxHistory) (debugToolTrace : Bool)
    (history : List Value) (inputs : List Input) :
    ∀ request ∈ runRequests json llm debugToolTrace history inputs,
      request.Bounded llm.maxHistory := by
  induction inputs generalizing history with
  | nil => simp [runRequests]
  | cons input later ih =>
      intro request member
      rw [runRequests] at member
      rcases List.mem_append.mp member with now | afterwards
      · unfold Input.requests at now
        dsimp only at now
        split at now
        · exact turnRequests_bounded positive _ _ _ _ request now
        · cases now
      · split at afterwards
        · exact ih _ request afterwards
        · cases afterwards

/-- The recorded requests are the ones that the rounds send. -/
theorem runRounds_requests {responses rest : List Response} {round : Nat}
    {engine : ConsensusEngine} {history sent turnSoFar : List Value} {trace : LlmTurnTrace}
    {payload : Value} {turn : Turn}
    (ran : llm.runRounds json order responses round engine history trace sent payload =
      some (turn, rest)) :
    turn.requests = sent ++ payload ::
      (llm.laterRequests json order responses round engine history turnSoFar).map (·.payload) := by
  induction responses generalizing round engine history trace sent payload turnSoFar with
  | nil => cases ran
  | cons response later ih =>
      cases response with
      | error error =>
          cases ran
          rfl
      | ok chunks =>
          rw [ConsensusLlm.laterRequests]
          rw [ConsensusLlm.runRounds] at ran
          dsimp only at ran ⊢
          have outcome := processLlmResponse_outcome json order chunks engine
            history (llm.turnConfig round)
          generalize LlmTurn.processLlmResponse json order chunks engine history
            (llm.turnConfig round) = processed at ran outcome ⊢
          cases assembled : assemble 64 chunks with
          | error error =>
              cases outcome with
              | rejected _ _ _ =>
                  cases ran
                  rfl
              | _ => simp_all [Except.isOk, Except.toBool]
          | ok message =>
              cases outcome with
              | goesOn next roundTrace engine batch answer call _ below answered last =>
                  rw [ih ran, List.append_assoc]
                  rfl
              | _ =>
                  cases ran
                  rfl

/-- The requests that a turn reports are those counted here. -/
theorem runTurnWithTrace_requests {engine : ConsensusEngine} {history : List Value}
    {line : String} {responses rest : List Response} {turn : Turn}
    (ran : llm.runTurnWithTrace json order engine (history ++ [userMessage line]) responses =
      some (turn, rest)) :
    turn.requests =
      (llm.turnRequests json order engine history line responses).map (·.payload) :=
  runRounds_requests ran

end ConsensusCli

/-! ### The browser app -/

namespace Consensus.BrowserApp

variable {json : JsonText} {order : HashOrder} {state : State} {event : Event}

/-- The request that a state asks with. -/
def request (order : HashOrder) (state : State) : Request where
  history := historyToJson state.conversation.history
  turn := currentTurn (historyToJson state.conversation.history)
  payload := buildRequestPayload order state

/-- The request of the browser app is bounded. -/
theorem request_bounded (positive : 1 ≤ state.conversationConfig.maxHistory) :
    (request order state).Bounded state.conversationConfig.maxHistory :=
  .of_payload positive rfl _ _ _ _

/-- Whatever is requested is requested from the state after the event. -/
theorem requested_payload {payload : Value}
    (asked : payload ∈ requested (reduce json order state event).effects) :
    payload = (request order (reduce json order state event).state).payload := by
  cases event with
  | draftsEvent event => cases asked
  | coordinatorEvent event =>
      rw [reduce, reduceCoordinatorEvent, requested_coordinatorEffects] at asked
      cases asked
  | conversationEvent event =>
      cases event with
      | userPromptReceived content => exact List.mem_singleton.mp asked
      | chatCompletionReceived chunks =>
          cases assembled : assemble 32 chunks with
          | error error =>
              rw [reduce_undecodable json order state assembled] at asked
              cases asked
          | ok message =>
              rw [reduce_decodable json order state assembled] at asked ⊢
              split at asked
              · cases asked
              · rename_i calls
                rw [if_neg calls]
                unfold reduceExecuteToolCalls at asked ⊢
                dsimp only at asked ⊢
                split at asked
                · cases asked
                · exact List.mem_singleton.mp asked

/-- No event touches the configuration. -/
theorem reduce_conversationConfig :
    (reduce json order state event).state.conversationConfig = state.conversationConfig := by
  cases event with
  | draftsEvent event => rfl
  | coordinatorEvent event => rfl
  | conversationEvent event =>
      cases event with
      | userPromptReceived content => rfl
      | chatCompletionReceived chunks =>
          cases assembled : assemble 32 chunks with
          | error error => rw [reduce_undecodable json order state assembled]
          | ok message =>
              rw [reduce_decodable json order state assembled]
              split
              · rfl
              · exact (executeToolCalls_frame message.toolCalls).conversationConfig

/-- No events touch the configuration. -/
theorem run_conversationConfig (events : List (HashOrder × Event)) :
    (run json state events).conversationConfig = state.conversationConfig := by
  induction events generalizing state with
  | nil => rfl
  | cons event later ih => exact ih.trans reduce_conversationConfig

end Consensus.BrowserApp

/-! ### Both clients -/

open ConsensusCli

/-- The limit is kept exactly where a history can be cut, and in every run of either client a
request built from such a history is bounded by the limit and the current turn. -/
theorem history_limit (max : Nat) (positive : 1 ≤ max) :
    (∀ history, WellFormed history →
      (LimitKept history max (truncateHistory history max) ↔ Cuttable history max)) ∧
    (∀ (json : JsonText) (llm : ConsensusLlm) (debugToolTrace : Bool) (history : List Value)
        (inputs : List Input), llm.maxHistory = max →
      ∀ request ∈ runRequests json llm debugToolTrace history inputs, request.Bounded max) ∧
    (∀ (json : JsonText) (participant : String) (latestEntryIndex : Option Nat)
        (config : BrowserApp.ConversationConfig) (events : List (HashOrder × BrowserApp.Event))
        (order : HashOrder) (event : BrowserApp.Event), config.maxHistory = max →
      let state := BrowserApp.run json
        (BrowserApp.init participant latestEntryIndex config).state events
      let transition := BrowserApp.reduce json order state event
      ∀ payload ∈ BrowserApp.requested transition.effects,
        payload = (BrowserApp.request order transition.state).payload ∧
          (BrowserApp.request order transition.state).Bounded max) := by
  refine ⟨fun history _ => limitKept_iff history max, ?_, ?_⟩
  · rintro json llm debugToolTrace history inputs rfl
    exact runRequests_bounded positive debugToolTrace history inputs
  · rintro json participant latestEntryIndex config events order event rfl state transition
      payload asked
    refine ⟨BrowserApp.requested_payload asked, ?_⟩
    have same : transition.state.conversationConfig = config :=
      BrowserApp.reduce_conversationConfig.trans (BrowserApp.run_conversationConfig events)
    rw [← same] at positive ⊢
    exact BrowserApp.request_bounded positive

/-- With three messages for a limit, the current turn alone is kept. -/
theorem history_limit_twoTurns :
    LimitKept twoTurns 3 (truncateHistory twoTurns 3) ∧ WellFormed twoTurns ∧
      Cuttable twoTurns 3 := by
  have wellFormed : WellFormed twoTurns := by decide
  have cuttable : Cuttable twoTurns 3 := .inr (.inl (by decide +kernel))
  exact ⟨((history_limit 3 (by decide)).1 twoTurns wellFormed).mpr cuttable, wellFormed, cuttable⟩

end ProstheticConscience
