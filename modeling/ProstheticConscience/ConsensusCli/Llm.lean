/-
Module: ProstheticConscience.ConsensusCli.Llm
Purpose: A turn of the language model in the terminal client: the rounds of requests and responses,
  what a line of input leaves in the history, and when that history is well formed.  The responses
  of the gateway are a list, from which each round takes one.
Trusted boundary: none
Main exports: ConsensusLlm, Turn, ConsensusLlm.runTurnWithTrace, Turn.historyAfter,
  historyAfterInput, fails, historyAfterInput_ends, wellFormed_after_input_iff
-/
import ProstheticConscience.Consensus.Dialogue
import ProstheticConscience.Consensus.DraftNotice
import ProstheticConscience.ConsensusCli.App
import ProstheticConscience.Text

namespace ProstheticConscience.ConsensusCli

open Consensus Conversation

/-- What the gateway makes of a chat request: the chunks of the response, or a client error. -/
abbrev Response := Except String (List Value)

inductive LlmError where
  | client (error : String)
  | processResponse (error : AssemblerError)
  | maxRoundsExceeded (max : Nat)
  | missingFinalMessage
deriving DecidableEq, Repr

structure LlmTurnTrace where
  rounds : List LlmRoundTrace
  finalMessage : Option CompletedAssistantMessage
deriving DecidableEq, Repr

structure LlmTurnTraceError where
  error : LlmError
  trace : LlmTurnTrace
deriving DecidableEq, Repr

structure ConsensusLlm where
  model : String
  participant : String
  maxHistory : Nat
deriving DecidableEq, Repr

/-- The outcome of a turn, with the requests it sent and the engine and the history it leaves. -/
structure Turn where
  result : Except LlmTurnTraceError LlmTurnTrace
  requests : List Value
  engine : ConsensusEngine
  history : List Value

/-! ### Rounds -/

/-- The trace of a round whose request failed. -/
def failedRound (round : Nat) (history : List Value) (error : String) : LlmRoundTrace where
  round
  requestHistoryMessages := history.length
  requestMessages := history.length + 1
  responseChunks := 0
  assistantMessage := none
  toolResults := []
  error := some error

def LlmTurnTrace.push (trace : LlmTurnTrace) (round : LlmRoundTrace) : LlmTurnTrace :=
  { trace with rounds := trace.rounds ++ [round] }

namespace ConsensusLlm

def turnConfig (llm : ConsensusLlm) (round : Nat) : TurnConfig where
  round
  maxRounds := LlmTurn.maxToolRounds
  maxHistory := llm.maxHistory
  model := llm.model
  participant := llm.participant

/-- The rounds of a turn, with the responses left over; `none` while a response is missing. -/
def runRounds (json : JsonText) (order : HashOrder) (llm : ConsensusLlm) :
    List Response → Nat → ConsensusEngine → List Value → LlmTurnTrace → List Value → Value →
      Option (Turn × List Response)
  | [], _, _, _, _, _, _ => none
  | .error error :: rest, round, engine, history, trace, sent, payload =>
      some
        ({ result := .error ⟨.client error, trace.push (failedRound round history error)⟩
           requests := sent ++ [payload]
           engine
           history }, rest)
  | .ok chunks :: rest, round, engine, history, trace, sent, payload =>
      let processed :=
        LlmTurn.processLlmResponse json order chunks engine history (llm.turnConfig round)
      let ends (result : Except LlmTurnTraceError LlmTurnTrace) : Option (Turn × List Response) :=
        some
          ({ result
             requests := sent ++ [payload]
             engine := processed.engine
             history := processed.history }, rest)
      match processed.step with
      | .ok (.final message roundTrace) =>
          ends (.ok { trace.push roundTrace with finalMessage := some message })
      | .ok (.needsRequest next roundTrace) =>
          runRounds json order llm rest (round + 1) processed.engine processed.history
            (trace.push roundTrace) (sent ++ [payload]) next
      | .ok (.maxRoundsExceeded roundTrace) =>
          ends (.error ⟨.maxRoundsExceeded LlmTurn.maxToolRounds, trace.push roundTrace⟩)
      | .error error => ends (.error ⟨.processResponse error, trace⟩)

def runTurnWithTrace (json : JsonText) (order : HashOrder) (llm : ConsensusLlm)
    (engine : ConsensusEngine) (history : List Value) (responses : List Response) :
    Option (Turn × List Response) :=
  let (payload, history) :=
    LlmTurn.buildInitialRequest order llm.model llm.participant engine history llm.maxHistory
  llm.runRounds json order responses 0 engine history ⟨[], none⟩ [] payload

end ConsensusLlm

/-- What `run_turn` makes of a turn. -/
def Turn.finalMessage (turn : Turn) : Except LlmError CompletedAssistantMessage :=
  match turn.result with
  | .ok trace =>
      match trace.finalMessage with
      | some message => .ok message
      | none => .error .missingFinalMessage
  | .error failed => .error failed.error

/-! ### Lines of input -/

/-- The history after the app has seen to the outcome of a turn, with or without the trace. -/
def Turn.historyAfter (turn : Turn) (debugToolTrace : Bool) : List Value :=
  if debugToolTrace then
    match turn.result with
    | .ok trace => if trace.finalMessage.isSome then turn.history else turn.history.dropLast
    | .error _ => turn.history.dropLast
  else
    match turn.finalMessage with
    | .ok _ => turn.history
    | .error _ => turn.history.dropLast

/-- Whether `handle_input` hands a trimmed line to the language model: nothing waits for a
confirmation, no submission is pending, the session is connected and the line is no command. -/
def startsTurn (app : ConsensusApp) (line : String) : Bool :=
  !line.isEmpty && app.mayDraft && !(['/'].isPrefixOf line.toList)

/-- The history after a line of input, with the responses left over. -/
def historyAfterInput (json : JsonText) (order : HashOrder) (llm : ConsensusLlm)
    (debugToolTrace : Bool) (app : ConsensusApp) (history : List Value) (line : String)
    (responses : List Response) : Option (List Value × List Response) :=
  let line := trim line
  if startsTurn app line then
    (llm.runTurnWithTrace json order app.buffer.engine (history ++ [userMessage line])
      responses).map fun (turn, rest) => (turn.historyAfter debugToolTrace, rest)
  else some (history, responses)

/-! ### What a round leaves of the history

A failed turn takes back one message. Which rounds have pushed more than one is told by the way the
turn went, so each way is a constructor of the inversion. -/

/-- The message of a call and the messages that answer it, and what processing makes of them. -/
inductive RoundOutcome (chunks history : List Value) (config : TurnConfig) :
    LlmTurn.Processed → Prop where
  | rejected (error : AssemblerError) (engine : ConsensusEngine)
      (fails : (assemble 64 chunks).isOk = false) :
      RoundOutcome chunks history config { step := .error error, engine, history }
  | final (message : CompletedAssistantMessage) (roundTrace : LlmRoundTrace)
      (engine : ConsensusEngine) (batch : List Value)
      (assembles : (assemble 64 chunks).isOk = true)
      (answered : WellFormed batch) :
      RoundOutcome chunks history config
        { step := .ok (.final message roundTrace), engine, history := history ++ batch }
  | exceeded (roundTrace : LlmRoundTrace) (engine : ConsensusEngine) (message : Value)
      (assembles : (assemble 64 chunks).isOk = true) :
      RoundOutcome chunks history config
        { step := .ok (.maxRoundsExceeded roundTrace), engine, history := history ++ [message] }
  | goesOn (payload : Value) (roundTrace : LlmRoundTrace) (engine : ConsensusEngine)
      (batch : List Value) (answer : Value) (call : Option Value)
      (assembles : (assemble 64 chunks).isOk = true)
      (below : config.round < config.maxRounds)
      (answered : WellFormed (batch ++ [answer]))
      (last : utterance answer = .answers call) :
      RoundOutcome chunks history config
        { step := .ok (.needsRequest payload roundTrace)
          engine
          history := truncateHistory (history ++ (batch ++ [answer])) config.maxHistory }

variable {json : JsonText} {order : HashOrder}

/-- Each call is answered under its id. -/
theorem traceToolCalls_utterances (json : JsonText) (order : HashOrder) (engine : ConsensusEngine)
    (calls : List RawToolCall) :
    ((LlmTurn.traceToolCalls json order engine calls).1.map LlmTurn.toolMessage).map utterance =
      (calls.map callId).map .answers := by
  induction calls generalizing engine with
  | nil => rfl
  | cons call rest ih =>
      rw [LlmTurn.traceToolCalls]
      simp only [List.map_cons, ih]
      congr 1
      exact utterance_toolResultMessage _ _

/-- The messages that answer at least one call end with an answer. -/
theorem answers_last {calls : List RawToolCall} {answers : List Value} (some : calls ≠ [])
    (answered : answers.map utterance = (calls.map callId).map .answers) :
    ∃ before answer call, answers = before ++ [answer] ∧ utterance answer = .answers call := by
  rcases List.eq_nil_or_concat' answers with rfl | ⟨before, answer, rfl⟩
  · simp at answered
    exact absurd answered some
  · rcases List.eq_nil_or_concat' calls with rfl | ⟨others, call, rfl⟩
    · exact absurd rfl some
    · simp only [List.map_append, List.map_singleton] at answered
      have last := List.append_inj_right' answered rfl
      exact ⟨before, answer, callId call, rfl, List.singleton_inj.mp last⟩

theorem processLlmResponse_outcome (json : JsonText) (order : HashOrder) (chunks : List Value)
    (engine : ConsensusEngine) (history : List Value) (config : TurnConfig) :
    RoundOutcome chunks history config
      (LlmTurn.processLlmResponse json order chunks engine history config) := by
  unfold LlmTurn.processLlmResponse
  cases assembled : assemble 64 chunks with
  | error error => exact .rejected error engine (by rw [assembled]; rfl)
  | ok message =>
      have assembles : (assemble 64 chunks).isOk = true := by
        rw [assembled]
        rfl
      dsimp only
      split
      · rename_i noCalls
        have plain : utterance (assistantMessageValue message) = .speaks [] := by
          rw [assistantMessageValue, utterance_assistantValue, List.isEmpty_iff.mp noCalls]
          rfl
        exact .final _ _ _ _ assembles (.plain plain)
      · rename_i calls
        split
        · exact .exceeded _ _ _ assembles
        · rename_i below
          unfold LlmTurn.dispatchToolCalls
          have answered := traceToolCalls_utterances json order engine message.toolCalls
          generalize LlmTurn.traceToolCalls json order engine message.toolCalls = executed
            at answered
          have batch : WellFormed (assistantMessageValue message ::
              executed.1.map LlmTurn.toolMessage) :=
            .batch answered
          have joined : history ++ [assistantMessageValue message] ++
              executed.1.map LlmTurn.toolMessage =
                history ++ (assistantMessageValue message :: executed.1.map LlmTurn.toolMessage) :=
            List.append_assoc _ _ _
          dsimp only
          rw [joined]
          split
          · rw [List.append_assoc]
            apply RoundOutcome.final _ _ _ _ assembles
            exact batch.append (.plain (utterance_assistantValue _ []))
          · obtain ⟨before, answer, call, split, last⟩ :=
              answers_last (mt List.isEmpty_iff.mpr calls) answered
            rw [split, ← List.cons_append] at batch ⊢
            exact .goesOn _ _ _ _ answer call assembles (Nat.lt_of_not_le below) batch last

/-! ### Turns

A turn ends because its rounds are counted; what it leaves of the history follows from its last
round. -/

/-- A response without which a round cannot go on: a transport failure, or chunks that do not
assemble. -/
def fails : Response → Bool
  | .error _ => true
  | .ok chunks => !(assemble 64 chunks).isOk

/-- A history as a round finds it: the last message is the user's in the first round, and the
answer to a call later. -/
structure Ready (round : Nat) (history : List Value) : Prop where
  wellFormed : WellFormed history
  last : ∃ before message, history = before ++ [message] ∧
    (utterance message = .speaks [] ↔ round = 0)

theorem Turn.historyAfter_ok {turn : Turn} {trace : LlmTurnTrace}
    {message : CompletedAssistantMessage} (completed : turn.result = .ok trace)
    (final : trace.finalMessage = some message) (debugToolTrace : Bool) :
    turn.historyAfter debugToolTrace = turn.history := by
  cases debugToolTrace <;> simp [historyAfter, finalMessage, completed, final]

/-- Whatever a failed turn has put into the history, one message is taken back. -/
theorem Turn.historyAfter_error {turn : Turn} {failed : LlmTurnTraceError}
    (result : turn.result = .error failed) (debugToolTrace : Bool) :
    turn.historyAfter debugToolTrace = turn.history.dropLast := by
  cases debugToolTrace <;> simp [historyAfter, finalMessage, result]

/-- Taking back the last message is right in the first round only. -/
theorem Ready.dropLast_iff {round : Nat} {history : List Value} (ready : Ready round history) :
    WellFormed history.dropLast ↔ round = 0 := by
  obtain ⟨before, message, rfl, plain⟩ := ready.last
  rw [List.dropLast_concat, ready.wellFormed.dropLast_iff]
  exact plain

/-- After answered calls the next round is not the first. -/
theorem Ready.next {round max : Nat} {history batch : List Value} {answer : Value}
    {call : Option Value} (ready : Ready round history) (answered : WellFormed (batch ++ [answer]))
    (last : utterance answer = .answers call) :
    Ready (round + 1) (truncateHistory (history ++ (batch ++ [answer])) max) := by
  constructor
  · exact (ready.wellFormed.append answered).truncateHistory max
  · obtain ⟨kept, truncated⟩ := truncateHistory_concat (history ++ batch) answer max
    rw [List.append_assoc] at truncated
    refine ⟨kept, answer, truncated, ?_⟩
    rw [last]
    simp

variable {llm : ConsensusLlm} {responses : List Response} {round : Nat} {engine : ConsensusEngine}
  {history : List Value} {trace : LlmTurnTrace} {sent : List Value} {payload : Value} {turn : Turn}

/-- A failure is right to take back in the first round, and in no other. -/
theorem runRounds_wellFormed_iff (ready : Ready round history)
    (ran : llm.runRounds json order responses round engine history trace sent payload =
      some (turn, [])) (debugToolTrace : Bool) :
    WellFormed (turn.historyAfter debugToolTrace) ↔
      round = 0 ∧ responses.tail.all (!fails ·) = true ∨ responses.all (!fails ·) = true := by
  induction responses generalizing round engine history trace sent payload with
  | nil => cases ran
  | cons response rest ih =>
      cases response with
      | error error =>
          rw [ConsensusLlm.runRounds] at ran
          cases ran
          rw [Turn.historyAfter_error rfl, ready.dropLast_iff]
          simp [fails]
      | ok chunks =>
          rw [ConsensusLlm.runRounds] at ran
          have outcome := processLlmResponse_outcome json order chunks engine
            history (llm.turnConfig round)
          generalize LlmTurn.processLlmResponse json order chunks engine history
            (llm.turnConfig round) = processed at ran outcome
          cases outcome with
          | rejected error engine failed =>
              cases ran
              rw [Turn.historyAfter_error rfl, ready.dropLast_iff]
              simp [fails, failed]
          | final message roundTrace engine batch assembles answered =>
              cases ran
              rw [Turn.historyAfter_ok rfl rfl]
              simp [fails, assembles, ready.wellFormed.append answered]
          | exceeded roundTrace engine message assembles =>
              cases ran
              rw [Turn.historyAfter_error rfl]
              simp [fails, assembles, ready.wellFormed]
          | goesOn next roundTrace engine batch answer call assembles below answered last =>
              rw [ih (ready.next answered last) ran]
              simp [fails, assembles]

/-- A response ends the turn, or leads to the next round as long as rounds are left. -/
theorem runRounds_step (json : JsonText) (order : HashOrder) (response : Response) :
    (∃ turn, ∀ rest, llm.runRounds json order (response :: rest) round engine history trace sent
      payload = some (turn, rest)) ∨
    round < LlmTurn.maxToolRounds ∧
      ∃ (nextEngine : ConsensusEngine) (nextHistory : List Value) (nextTrace : LlmTurnTrace)
        (nextPayload : Value), ∀ rest,
          llm.runRounds json order (response :: rest) round engine history trace sent payload =
            llm.runRounds json order rest (round + 1) nextEngine nextHistory nextTrace
              (sent ++ [payload]) nextPayload := by
  cases response with
  | error error => exact .inl ⟨_, fun rest => rfl⟩
  | ok chunks =>
      simp only [ConsensusLlm.runRounds]
      have outcome := processLlmResponse_outcome json order chunks engine
        history (llm.turnConfig round)
      generalize LlmTurn.processLlmResponse json order chunks engine history
        (llm.turnConfig round) = processed at outcome ⊢
      cases outcome with
      | rejected error engine failed => exact .inl ⟨_, fun rest => rfl⟩
      | final message roundTrace engine batch assembles answered =>
          exact .inl ⟨_, fun rest => rfl⟩
      | exceeded roundTrace engine message assembles => exact .inl ⟨_, fun rest => rfl⟩
      | goesOn next roundTrace engine batch answer call assembles below answered last =>
          exact .inr ⟨below, _, _, _, _, fun rest => rfl⟩

/-- The rounds of a turn end when the responses last. -/
theorem runRounds_ends (answers : Nat → Response) (left : Nat)
    (inRange : round ≤ LlmTurn.maxToolRounds) (budget : LlmTurn.maxToolRounds < round + left) :
    ∃ count ≤ left, ∃ turn, llm.runRounds json order ((List.range count).map answers) round
      engine history trace sent payload = some (turn, []) := by
  induction left generalizing answers round engine history trace sent payload with
  | zero => omega
  | succ left ih =>
      rcases runRounds_step json order (answers 0) with
        ⟨turn, ends⟩ | ⟨below, nextEngine, nextHistory, nextTrace, nextPayload, step⟩
      · exact ⟨1, Nat.le_add_left 1 left, turn, ends []⟩
      · obtain ⟨count, bounded, turn, ends⟩ :=
          ih (fun position => answers (position + 1)) below (by omega)
        refine ⟨count + 1, Nat.succ_le_succ bounded, turn, ?_⟩
        rw [List.range_succ_eq_map, List.map_cons, step, List.map_map]
        exact ends

theorem runTurnWithTrace_ends (answers : Nat → Response) :
    ∃ count ≤ LlmTurn.maxToolRounds + 1, ∃ turn, llm.runTurnWithTrace json order engine history
      ((List.range count).map answers) = some (turn, []) :=
  runRounds_ends answers (LlmTurn.maxToolRounds + 1) (Nat.zero_le _) (by omega)

/-- Every line of input is seen to with at most one response for each round and one more. -/
theorem historyAfterInput_ends (json : JsonText) (order : HashOrder) (llm : ConsensusLlm)
    (debugToolTrace : Bool) (app : ConsensusApp) (history : List Value) (line : String)
    (answers : Nat → Response) :
    ∃ count ≤ LlmTurn.maxToolRounds + 1, ∃ after,
      historyAfterInput json order llm debugToolTrace app history line
        ((List.range count).map answers) = some (after, []) := by
  unfold historyAfterInput
  dsimp only
  split
  · obtain ⟨count, bounded, turn, ends⟩ := runTurnWithTrace_ends answers
    refine ⟨count, bounded, turn.historyAfter debugToolTrace, ?_⟩
    rw [ends]
    rfl
  · exact ⟨0, Nat.zero_le _, history, rfl⟩

/-- The user's message is the last of a history that is ready for the first round. -/
theorem ready_userMessage (wellFormed : WellFormed history) (content : String) (max : Nat) :
    Ready 0 (truncateHistory (history ++ [userMessage content]) max) := by
  constructor
  · exact (wellFormed.append (.plain (utterance_userMessage content))).truncateHistory max
  · obtain ⟨kept, truncated⟩ := truncateHistory_concat history (userMessage content) max
    exact ⟨kept, _, truncated, by simp⟩

/-- A well-formed history is left well formed by a line of input exactly when no response after
the first one of its turn fails. -/
theorem wellFormed_after_input_iff (json : JsonText) (order : HashOrder) (llm : ConsensusLlm)
    (debugToolTrace : Bool) (app : ConsensusApp) (history : List Value) (line : String)
    (responses : List Response) (after : List Value) (wellFormed : WellFormed history)
    (handled : historyAfterInput json order llm debugToolTrace app history line responses =
      some (after, [])) :
    WellFormed after ↔ ∀ response ∈ responses.tail, fails response = false := by
  unfold historyAfterInput at handled
  dsimp only at handled
  split at handled
  · obtain ⟨⟨turn, rest⟩, ran, same⟩ := Option.map_eq_some_iff.mp handled
    cases same
    rw [runRounds_wellFormed_iff (ready_userMessage wellFormed _ _) ran]
    cases responses with
    | nil => cases ran
    | cons first later => simp +contextual
  · cases handled
    simp [wellFormed]

/-! ### A query of the drafts -/

/-- The JSON texts of a call to `show_drafts` and of its answer. -/
def showingText : JsonText where
  fromStr := fun text => if text = "\x7b\x7d" then .ok (.object []) else .error "expected value"
  toStringPretty := fun value => if value = .array [] then "[]" else "null"

def showDrafts : RawToolCall :=
  ⟨"call_1", "function", ⟨"show_drafts", "\x7b\x7d"⟩⟩

def showDraftsResponse : Response :=
  .ok [toolCallChunk "call_1" "show_drafts" "\x7b\x7d"]

/-- A response that only says something. -/
def textResponse (content : String) : Response :=
  .ok [.ofMembers [("choices", .array [.ofMembers [("delta", .ofMembers [
    ("role", .string "assistant"), ("content", .string content)])]])]]

def assistantLlm : ConsensusLlm where
  model := "model"
  participant := "ava"
  maxHistory := 20

def connectedApp : ConsensusApp where
  buffer := EntryBuffer.new "ava"
  connected := true
  confirmation := none

theorem query_wellFormed :
    WellFormed [userMessage "Any drafts?", assistantValue none [showDrafts],
      toolResultMessage "call_1" "[]", assistantValue (some "None.") []] :=
  (wellFormed_after_input_iff showingText .insertion assistantLlm false connectedApp []
    "Any drafts?" [showDraftsResponse, textResponse "None."] _ .nil (by decide +kernel)).mpr
    (by decide)

/-- The gateway fails after the query: its answer is taken back, and the call stays. -/
theorem query_dangles :
    ¬∀ (history : List Value) (line : String) (responses : List Response) (after : List Value),
      WellFormed history →
      historyAfterInput showingText .insertion assistantLlm false connectedApp history line
        responses = some (after, []) →
      WellFormed after := by
  intro keeps
  have dangling : WellFormed [userMessage "Any drafts?", assistantValue none [showDrafts]] :=
    keeps [] "Any drafts?" [showDraftsResponse, .error "inference request failed"] _ .nil
      (by decide +kernel)
  exact absurd dangling (by decide +kernel)

end ProstheticConscience.ConsensusCli
