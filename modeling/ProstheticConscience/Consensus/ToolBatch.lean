/-
Module: ProstheticConscience.Consensus.ToolBatch
Purpose: A batch of tool calls in the browser app is the fold of its successful calls: failed calls
  leave no trace, and apart from the drafts the state stays as it is.
Trusted boundary: none
Main exports: AppTool.editsDrafts, BrowserApp.SameButDrafts, BrowserApp.CallStep,
  BrowserApp.successfulCalls, BrowserApp.FoldOfSuccesses, BrowserApp.batch_is_fold_of_successes
-/
import ProstheticConscience.Consensus.ToolExecution

namespace ProstheticConscience.Consensus

/-- The tools that create a draft or remove one. -/
def AppTool.editsDrafts : AppTool → Bool
  | .draftClaim .. | .draftRelation .. | .draftStance .. | .draftResolve .. | .draftComment ..
  | .removeDraft _ => true
  | _ => false

namespace BrowserApp

/-! ### One call -/

/-- Apart from the drafts and the counter of their ids, nothing changed. -/
structure SameButDrafts (before after : State) : Prop where
  participant : after.participant = before.participant
  conversationConfig : after.conversationConfig = before.conversationConfig
  conversation : after.conversation = before.conversation
  coordinator : after.coordinator = before.coordinator
  lastNotice : after.drafts.lastNotice = before.drafts.lastNotice

theorem SameButDrafts.refl (state : State) : SameButDrafts state state :=
  ⟨rfl, rfl, rfl, rfl, rfl⟩

/-- What neither of two changes touches, both together do not touch. -/
theorem SameButDrafts.trans {first second third : State} (earlier : SameButDrafts first second)
    (later : SameButDrafts second third) : SameButDrafts first third where
  participant := later.participant.trans earlier.participant
  conversationConfig := later.conversationConfig.trans earlier.conversationConfig
  conversation := later.conversation.trans earlier.conversation
  coordinator := later.coordinator.trans earlier.coordinator
  lastNotice := later.lastNotice.trans earlier.lastNotice

/-- A change of the drafts that keeps the last notice touches nothing else. -/
theorem SameButDrafts.of_drafts {state : State} {drafts : Drafts.State}
    (lastNotice : drafts.lastNotice = state.drafts.lastNotice) :
    SameButDrafts state { state with drafts } :=
  ⟨rfl, rfl, rfl, rfl, lastNotice⟩

/-- A drafting function leaves the notice to the event reducer. -/
theorem pushDraft_lastNotice (drafts : Drafts.State) (entry : DraftContent) :
    Yields (fun result => result.1.lastNotice = drafts.lastNotice)
      (Drafts.pushDraft drafts entry) := by
  intro result pushed
  unfold Drafts.pushDraft at pushed
  split at pushed
  · cases pushed
    rfl
  · cases pushed

/-- Removing a draft as a tool does not touch the notice. -/
theorem removeDraft_lastNotice (drafts : Drafts.State) (draftId : DraftId) :
    Yields (fun result => result.lastNotice = drafts.lastNotice)
      (Drafts.removeDraft drafts draftId) := by
  intro result removed
  unfold Drafts.removeDraft at removed
  split at removed
  · cases removed
  · dsimp only at removed
    split at removed
    · cases removed
    · cases removed
      rfl

/-- What a tool that succeeds does to the state, and whether it reports a mutation. -/
structure ToolStep (state : State) (tool : AppTool) (result : State × ToolOutput × Bool) :
    Prop where
  frame : SameButDrafts state result.1
  mutated : result.2.2 = tool.editsDrafts

/-- A query is a step that leaves the state as it is. -/
theorem ToolStep.of_query {α : Type} {state : State} {tool : AppTool}
    {data : Except EngineError α} {output : α → ToolOutput} (query : tool.editsDrafts = false) :
    Yields (ToolStep state tool) (data.map fun value => queried state (output value)) := by
  intro result executed
  cases data with
  | error error => cases executed
  | ok value =>
      cases executed
      exact ⟨.refl state, query.symm⟩

/-- A new draft is a step that edits the drafts only. -/
theorem ToolStep.of_draft {state : State} {tool : AppTool} (entry : DraftContent)
    (output : DraftId → ToolOutput) (edits : tool.editsDrafts = true) :
    Yields (ToolStep state tool)
      ((Drafts.pushDraft state.drafts entry).map (drafted state output)) := by
  intro result executed
  cases pushed : Drafts.pushDraft state.drafts entry with
  | error error =>
      rw [pushed] at executed
      cases executed
  | ok drafts =>
      rw [pushed] at executed
      cases executed
      exact ⟨.of_drafts (pushDraft_lastNotice _ _ _ pushed), edits.symm⟩

/-- The step lemma, by the tool: what one tool may do to the state, and that it does nothing when it
fails. -/
theorem executeTool_step (order : HashOrder) (state : State) (tool : AppTool) :
    Yields (ToolStep state tool) (executeTool order state tool) := by
  cases tool with
  | overview => exact .ok ⟨.refl state, rfl⟩
  | claimDetail claimId => exact .ok ⟨.refl state, rfl⟩
  | showDrafts => exact .ok ⟨.refl state, rfl⟩
  | previewOverview => exact ToolStep.of_query rfl
  | previewClaimDetail claim => exact ToolStep.of_query rfl
  | impactAnalysis => exact ToolStep.of_query rfl
  | draftClaim body kind parent => exact ToolStep.of_draft _ _ rfl
  | draftRelation source target kind => exact ToolStep.of_draft _ _ rfl
  | draftStance target position => exact ToolStep.of_draft _ _ rfl
  | draftResolve claim outcome => exact ToolStep.of_draft _ _ rfl
  | draftComment body claim => exact ToolStep.of_draft _ _ rfl
  | removeDraft draftId =>
      intro result executed
      rw [executeTool] at executed
      cases removed : Drafts.removeDraft state.drafts draftId with
      | error error =>
          rw [removed] at executed
          cases executed
      | ok drafts =>
          rw [removed] at executed
          cases executed
          exact ⟨.of_drafts (removeDraft_lastNotice _ _ _ removed), rfl⟩

/-- A call fails and leaves the state as it is, or it decodes and its tool succeeds. -/
inductive CallStep (fromStr : String → Except String Value) (state : State) (call : RawToolCall) :
    ToolCallOutcome × Bool × State → Prop where
  | failed (error : ToolCallError) : CallStep fromStr state call (.error error, false, state)
  | succeeded {tool : AppTool} (decoded : AppTools.decodeToolCall fromStr call = .ok tool)
      (output : ToolOutput) {next : State} (frame : SameButDrafts state next) :
      CallStep fromStr state call (.success output, tool.editsDrafts, next)

/-- What one call may do: a call that cannot be decoded does nothing, any other is a step of its
tool. -/
theorem executeToolCall_step (order : HashOrder) (state : State)
    (fromStr : String → Except String Value) (call : RawToolCall) :
    CallStep fromStr state call (executeToolCall order state fromStr call) := by
  unfold executeToolCall
  cases decoded : AppTools.decodeToolCall fromStr call with
  | error error => exact .failed (.decode error)
  | ok tool =>
      dsimp only
      cases executed : executeTool order state tool with
      | error error => exact .failed (.execution error)
      | ok result =>
          have step := executeTool_step order state tool result executed
          have success := CallStep.succeeded decoded result.2.1 step.frame
          rw [← step.mutated] at success
          exact success

/-! ### Batches -/

/-- A batch with one more outcome. -/
def ToolBatchExecution.push (batch : ToolBatchExecution) (callId : String)
    (result : ToolCallOutcome × Bool × State) : ToolBatchExecution where
  state := result.2.2
  outcomes := batch.outcomes ++ [{ callId, outcome := result.1 }]
  domainMutated := batch.domainMutated || result.2.1

/-- One batch, and another from the state that it leaves. -/
def ToolBatchExecution.andThen (batch later : ToolBatchExecution) : ToolBatchExecution where
  state := later.state
  outcomes := batch.outcomes ++ later.outcomes
  domainMutated := batch.domainMutated || later.domainMutated

def ToolCallOutcome.isSuccess : ToolCallOutcome → Bool
  | .success _ => true
  | .error _ => false

/-- The calls whose outcome is a success. -/
def successfulCalls (calls : List RawToolCall) (outcomes : List ToolExecution) :
    List RawToolCall :=
  ((calls.zip outcomes).filter (·.2.outcome.isSuccess)).map (·.1)

/-- The batch without its failures. -/
def ToolBatchExecution.onlySuccesses (batch : ToolBatchExecution) : ToolBatchExecution :=
  { batch with outcomes := batch.outcomes.filter (·.outcome.isSuccess) }

variable {order : HashOrder} {state : State} {fromStr : String → Except String Value}

/-- A batch and one more call is the batch, then the call in the state that the batch leaves. -/
theorem executeToolCalls_concat (calls : List RawToolCall) (call : RawToolCall) :
    executeToolCalls order state fromStr (calls ++ [call]) =
      (executeToolCalls order state fromStr calls).push call.id
        (executeToolCall order (executeToolCalls order state fromStr calls).state fromStr
          call) := by
  unfold executeToolCalls
  rw [List.foldl_concat]
  rfl

/-- One more call after two batches belongs to the second one. -/
theorem ToolBatchExecution.andThen_push (batch later : ToolBatchExecution) (callId : String)
    (result : ToolCallOutcome × Bool × State) :
    batch.andThen (later.push callId result) = (batch.andThen later).push callId result := by
  simp [andThen, push, Bool.or_assoc]

/-- A batch can be cut in two. -/
theorem executeToolCalls_append (first second : List RawToolCall) :
    executeToolCalls order state fromStr (first ++ second) =
      (executeToolCalls order state fromStr first).andThen
        (executeToolCalls order (executeToolCalls order state fromStr first).state fromStr
          second) := by
  induction second using List.reverseRecOn with
  | nil =>
      rw [List.append_nil]
      simp [ToolBatchExecution.andThen, executeToolCalls]
  | append_singleton second call ih =>
      rw [← List.append_assoc, executeToolCalls_concat, executeToolCalls_concat, ih,
        ToolBatchExecution.andThen_push]
      rfl

/-- Every call has its outcome under its id, in the order of the calls. -/
theorem executeToolCalls_callIds (calls : List RawToolCall) :
    (executeToolCalls order state fromStr calls).outcomes.map (·.callId) = calls.map (·.id) := by
  induction calls using List.reverseRecOn with
  | nil => rfl
  | append_singleton calls call ih =>
      rw [executeToolCalls_concat, ToolBatchExecution.push, List.map_append, ih, List.map_append]
      rfl

/-- There are as many outcomes as calls. -/
theorem executeToolCalls_length (order : HashOrder) (state : State)
    (fromStr : String → Except String Value) (calls : List RawToolCall) :
    calls.length = (executeToolCalls order state fromStr calls).outcomes.length := by
  have callIds : (executeToolCalls order state fromStr calls).outcomes.map (·.callId) =
      calls.map (·.id) := executeToolCalls_callIds calls
  have lengths := congrArg List.length callIds
  simpa using lengths.symm

/-- The outcome of a call is the one it has in the state that the calls before it leave. -/
theorem executeToolCalls_outcome (before : List RawToolCall) (call : RawToolCall)
    (after : List RawToolCall) :
    (executeToolCalls order state fromStr (before ++ call :: after)).outcomes[before.length]? =
      some { callId := call.id
             outcome := (executeToolCall order (executeToolCalls order state fromStr before).state
               fromStr call).1 } := by
  rw [List.append_cons, executeToolCalls_append, executeToolCalls_concat,
    executeToolCalls_length order state fromStr before]
  simp [ToolBatchExecution.andThen, ToolBatchExecution.push]

/-- The calls and outcomes of a batch side by side, with one more call. -/
theorem zip_executeToolCalls_concat (calls : List RawToolCall) (call : RawToolCall)
    (execution : ToolExecution) :
    (calls ++ [call]).zip ((executeToolCalls order state fromStr calls).outcomes ++ [execution]) =
      calls.zip (executeToolCalls order state fromStr calls).outcomes ++ [(call, execution)] := by
  rw [List.zip_append (executeToolCalls_length order state fromStr calls)]
  rfl

/-! ### The fold of the successful calls

A call that fails leaves the state alone, so that a batch without its failed calls leaves the same
state. By induction on the calls from the end, with the step lemma of one call. -/

/-- What a batch makes of its calls: one outcome for each under its id, each call executed in the
state that the calls before it leave, the state and the outcomes of the successful ones alone, no
trace of the others, and a report of the successful edits. -/
structure FoldOfSuccesses (order : HashOrder) (state : State)
    (fromStr : String → Except String Value) (calls : List RawToolCall)
    (batch : ToolBatchExecution) : Prop where
  callIds : batch.outcomes.map (·.callId) = calls.map (·.id)
  executed : ∀ before call after, calls = before ++ call :: after →
    let result := executeToolCall order (executeToolCalls order state fromStr before).state fromStr
      call
    batch.outcomes[before.length]? = some { callId := call.id, outcome := result.1 } ∧
      (executeToolCalls order state fromStr (before ++ [call])).state = result.2.2
  successes : executeToolCalls order state fromStr (successfulCalls calls batch.outcomes) =
    batch.onlySuccesses
  failures : ∀ before call after, calls = before ++ call :: after →
    ∀ error, batch.outcomes[before.length]? = some { callId := call.id, outcome := .error error } →
      (executeToolCalls order state fromStr (before ++ [call])).state =
        (executeToolCalls order state fromStr before).state
  frame : SameButDrafts state batch.state
  domainMutated : batch.domainMutated = true ↔
    ∃ entry ∈ calls.zip batch.outcomes, entry.2.outcome.isSuccess = true ∧
      ∃ tool, AppTools.decodeToolCall fromStr entry.1 = .ok tool ∧ tool.editsDrafts = true

/-- Without the calls that failed the batch leaves the same state and the same outcomes of the
others; by induction on the calls from the end. -/
theorem executeToolCalls_successes (calls : List RawToolCall) :
    executeToolCalls order state fromStr
        (successfulCalls calls (executeToolCalls order state fromStr calls).outcomes) =
      (executeToolCalls order state fromStr calls).onlySuccesses := by
  induction calls using List.reverseRecOn with
  | nil => rfl
  | append_singleton calls call ih =>
      have split : successfulCalls (calls ++ [call])
            (executeToolCalls order state fromStr (calls ++ [call])).outcomes =
          successfulCalls calls (executeToolCalls order state fromStr calls).outcomes ++
            if (executeToolCall order (executeToolCalls order state fromStr calls).state fromStr
              call).1.isSuccess then [call] else [] := by
        rw [executeToolCalls_concat, successfulCalls, ToolBatchExecution.push,
          zip_executeToolCalls_concat, List.filter_append, List.map_append, ← successfulCalls]
        congr 1
        split <;> simp [*]
      rw [split, executeToolCalls_concat]
      have step := executeToolCall_step order (executeToolCalls order state fromStr calls).state
        fromStr call
      generalize same : executeToolCall order (executeToolCalls order state fromStr calls).state
        fromStr call = result at step
      cases step with
      | failed error =>
          -- the call is left out, and nothing but its outcome was added
          rw [if_neg (by simp [ToolCallOutcome.isSuccess]), List.append_nil, ih]
          simp [ToolBatchExecution.onlySuccesses, ToolBatchExecution.push,
            ToolCallOutcome.isSuccess]
      | succeeded decoded output frame =>
          have success : (ToolCallOutcome.success output).isSuccess = true := rfl
          rw [if_pos success, executeToolCalls_concat, ih]
          dsimp only [ToolBatchExecution.onlySuccesses]
          rw [same]
          simp [ToolBatchExecution.push, success]

/-- A call that fails leaves the state as it was. -/
theorem executeToolCalls_failures (before : List RawToolCall) (call : RawToolCall)
    {error : ToolCallError}
    (failed : (executeToolCall order (executeToolCalls order state fromStr before).state fromStr
      call).1 = .error error) :
    (executeToolCalls order state fromStr (before ++ [call])).state =
      (executeToolCalls order state fromStr before).state := by
  rw [executeToolCalls_concat, ToolBatchExecution.push]
  have step := executeToolCall_step order (executeToolCalls order state fromStr before).state
    fromStr call
  generalize executeToolCall order (executeToolCalls order state fromStr before).state
    fromStr call = result at step failed
  cases step with
  | failed error => rfl
  | succeeded decoded output frame => cases failed

/-- A batch touches the drafts at most. -/
theorem executeToolCalls_frame (calls : List RawToolCall) :
    SameButDrafts state (executeToolCalls order state fromStr calls).state := by
  induction calls using List.reverseRecOn with
  | nil => exact .refl state
  | append_singleton calls call ih =>
      rw [executeToolCalls_concat, ToolBatchExecution.push]
      have step := executeToolCall_step order (executeToolCalls order state fromStr calls).state
        fromStr call
      generalize executeToolCall order (executeToolCalls order state fromStr calls).state
        fromStr call = result at step
      cases step with
      | failed error => exact ih
      | succeeded decoded output frame => exact ih.trans frame

/-- The batch counts as a mutation exactly when a call of an editing tool succeeded in it. -/
theorem executeToolCalls_domainMutated (calls : List RawToolCall) :
    (executeToolCalls order state fromStr calls).domainMutated = true ↔
      ∃ entry ∈ calls.zip (executeToolCalls order state fromStr calls).outcomes,
        entry.2.outcome.isSuccess = true ∧
        ∃ tool, AppTools.decodeToolCall fromStr entry.1 = .ok tool ∧ tool.editsDrafts = true := by
  induction calls using List.reverseRecOn with
  | nil => simp [executeToolCalls]
  | append_singleton calls call ih =>
      rw [executeToolCalls_concat, ToolBatchExecution.push]
      dsimp only
      rw [Bool.or_eq_true, ih, zip_executeToolCalls_concat]
      have step := executeToolCall_step order (executeToolCalls order state fromStr calls).state
        fromStr call
      generalize executeToolCall order (executeToolCalls order state fromStr calls).state
        fromStr call = result at step ⊢
      have last : result.2.1 = true ↔ result.1.isSuccess = true ∧
          ∃ tool, AppTools.decodeToolCall fromStr call = .ok tool ∧ tool.editsDrafts = true := by
        cases step with
        | failed error => simp [ToolCallOutcome.isSuccess]
        | succeeded decoded output frame => simp [ToolCallOutcome.isSuccess, decoded]
      rw [last]
      simp only [List.mem_append, List.mem_singleton, or_and_right, exists_or, exists_eq_left]

/-- A batch of tool calls is the fold of its successful calls. -/
theorem batch_is_fold_of_successes (order : HashOrder) (state : State)
    (fromStr : String → Except String Value) (calls : List RawToolCall) :
    FoldOfSuccesses order state fromStr calls (executeToolCalls order state fromStr calls) where
  callIds := executeToolCalls_callIds calls
  executed := by
    rintro before call after rfl
    refine ⟨executeToolCalls_outcome before call after, ?_⟩
    rw [executeToolCalls_concat]
    rfl
  successes := executeToolCalls_successes calls
  failures := by
    rintro before call after rfl error outcome
    rw [executeToolCalls_outcome] at outcome
    have failed := congrArg ToolExecution.outcome (Option.some.inj outcome)
    exact executeToolCalls_failures before call failed
  frame := executeToolCalls_frame calls
  domainMutated := executeToolCalls_domainMutated calls

end BrowserApp

end ProstheticConscience.Consensus
