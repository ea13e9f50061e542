/-
Module: ProstheticConscience.Consensus.DraftNotice
Purpose: When the model can change the draft buffer unnoticed: what a dispatched call does to the
  engine, and the exact condition under which every change is confirmed and comes from a tool that
  is advertised.
Trusted boundary: none
Main exports: LlmTurn.DispatchEffect, LlmTurn.dispatch_effect, LlmTurn.dispatchedCalls,
  LlmTurn.DraftChangesNoticed, LlmTurn.draft_changes_noticed_iff
-/
import ProstheticConscience.Consensus.LlmTurn
import ProstheticConscience.Library.Results

namespace ProstheticConscience.Consensus.LlmTurn

/-! ### What a dispatched call does to the engine

Three kinds of tools: those that query, those that count as mutations and keep the engine when they
fail, and those that discard the drafts without counting as mutations. -/

/-- A tool that empties a buffer with drafts in it: `clear_drafts`, and `submit_drafts` when the
drafts materialize. -/
def DiscardsDrafts (engine : ConsensusEngine) (tool : String) : Prop :=
  engine.drafts ≠ [] ∧
    (tool = "clear_drafts" ∨
      tool = "submit_drafts" ∧
        (materializeDraftsForPreview engine.drafts engine.draftAuthor).isOk = true)

/-- The engine stays, or a mutation tool succeeds, or pending drafts are discarded. -/
inductive DispatchEffect (engine : ConsensusEngine) (tool : String) :
    Except ToolError Value × ConsensusEngine → Prop where
  | stays (result : Except ToolError Value) : DispatchEffect engine tool (result, engine)
  | mutates (isMutation : isDraftMutationTool tool = true) (value : Value)
      (next : ConsensusEngine) : DispatchEffect engine tool (.ok value, next)
  | discards (discards : DiscardsDrafts engine tool) (value : Value) :
      DispatchEffect engine tool (.ok value, engine.clearDrafts)

/-- A method that leaves the engine as it is when it fails. -/
def KeptOnError {α : Type} (engine : ConsensusEngine)
    (method : Except EngineError α × ConsensusEngine) : Prop :=
  ∀ error, method.1 = .error error → method.2 = engine

/-- A refused draft leaves the engine as it was. -/
theorem keptOnError_pushDraft (engine : ConsensusEngine) (content : DraftContent) :
    KeptOnError engine (engine.pushDraft content) := by
  intro error failed
  exact pushDraft_error (Prod.ext failed rfl)

/-- A refused removal leaves the engine as it was. -/
theorem keptOnError_removeDraft (engine : ConsensusEngine) (draftId : DraftId) :
    KeptOnError engine ((engine.removeDraft draftId).map (·.map fun _ => draftId) id) := by
  unfold ConsensusEngine.removeDraft
  split
  · intro error _
    rfl
  · dsimp only
    split
    · intro error _
      rfl
    · intro error failed
      cases failed

/-- Clearing an empty buffer changes nothing. -/
theorem clearDrafts_nil {engine : ConsensusEngine} (empty : engine.drafts = []) :
    engine.clearDrafts = engine := by
  rw [ConsensusEngine.clearDrafts, ← empty]

/-- Clearing a buffer with drafts changes the engine. -/
theorem clearDrafts_ne {engine : ConsensusEngine} (pending : engine.drafts ≠ []) :
    engine.clearDrafts ≠ engine := by
  intro same
  apply pending
  rw [← same]
  rfl

variable {engine : ConsensusEngine} {tool : String}

/-- A call of a method that only queries leaves the engine as it was. -/
theorem report_stays {α : Type} {toValue : α → Value}
    {action : Except ToolError (Except EngineError α × ConsensusEngine)}
    (queries : Yields (fun method => method.2 = engine) action) :
    DispatchEffect engine tool (Tools.report engine toValue action) := by
  cases action with
  | error error => exact .stays _
  | ok method =>
      rw [Tools.report, queries method rfl]
      exact .stays _

/-- A call of a method that keeps the engine on an error mutates it at most when it succeeds. -/
theorem report_mutates {α : Type} {toValue : α → Value}
    {action : Except ToolError (Except EngineError α × ConsensusEngine)}
    (isMutation : isDraftMutationTool tool = true) (kept : Yields (KeptOnError engine) action) :
    DispatchEffect engine tool (Tools.report engine toValue action) := by
  cases action with
  | error error => exact .stays _
  | ok method =>
      obtain ⟨result, next⟩ := method
      cases result with
      | ok value => exact .mutates isMutation _ next
      | error error =>
          rw [Tools.report, show next = engine from kept _ rfl error rfl]
          exact .stays _

/-- `clear_drafts` discards the drafts although it does not count as a mutation. -/
theorem clearDrafts_effect (engine : ConsensusEngine) (value : Value) :
    DispatchEffect engine "clear_drafts" (.ok value, engine.clearDrafts) := by
  by_cases pending : engine.drafts = []
  · rw [clearDrafts_nil pending]
    exact .stays _
  · exact .discards ⟨pending, .inl rfl⟩ value

/-- `submit_drafts` discards the drafts although it does not count as a mutation. -/
theorem submitDrafts_effect (engine : ConsensusEngine) :
    DispatchEffect engine "submit_drafts"
      (Tools.report engine Tools.submittedAnswer (.ok engine.submitDrafts)) := by
  unfold ConsensusEngine.submitDrafts
  split
  · rename_i entries materialized
    by_cases pending : engine.drafts = []
    · rw [clearDrafts_nil pending]
      exact .stays _
    · apply DispatchEffect.discards
      exact ⟨pending, .inr ⟨rfl, by rw [materialized]; rfl⟩⟩
  · exact .stays _

/-- What dispatching any tool does to the engine. -/
theorem dispatch_effect (order : HashOrder) (engine : ConsensusEngine) (tool : String)
    (args : Value) : DispatchEffect engine tool (Tools.dispatch order engine tool args) := by
  unfold Tools.dispatch
  split
  · exact report_stays (.ok rfl)
  · apply report_stays
    exact .bind fun id => .ok rfl
  · apply report_mutates rfl
    exact .bind fun body => .bind fun kind => .bind fun parent =>
      .ok (keptOnError_pushDraft engine _)
  · apply report_mutates rfl
    exact .bind fun source => .bind fun target => .bind fun kind =>
      .ok (keptOnError_pushDraft engine _)
  · apply report_mutates rfl
    exact .bind fun target => .bind fun position => .ok (keptOnError_pushDraft engine _)
  · apply report_mutates rfl
    exact .bind fun claim => .bind fun outcome => .ok (keptOnError_pushDraft engine _)
  · apply report_mutates rfl
    exact .bind fun body => .bind fun claim => .ok (keptOnError_pushDraft engine _)
  · exact report_stays (.ok rfl)
  · apply report_mutates rfl
    exact .bind fun draftId => .ok (keptOnError_removeDraft engine draftId)
  · exact submitDrafts_effect engine
  · exact clearDrafts_effect engine _
  · exact report_stays (.ok rfl)
  · apply report_stays
    exact .bind fun claim => .ok rfl
  · exact report_stays (.ok rfl)
  · exact .stays _

/-- A call that discards the drafts clears the buffer, whatever its arguments are. -/
theorem DiscardsDrafts.dispatch (order : HashOrder) (discards : DiscardsDrafts engine tool)
    (args : Value) : (Tools.dispatch order engine tool args).2 = engine.clearDrafts := by
  obtain ⟨_, rfl | ⟨rfl, materializes⟩⟩ := discards
  · rfl
  · unfold Tools.dispatch ConsensusEngine.submitDrafts
    cases materialized : materializeDraftsForPreview engine.drafts engine.draftAuthor with
    | ok entries => rfl
    | error error =>
        rw [materialized] at materializes
        cases materializes

/-! ### The calls of a response -/

/-- The calls of a batch, each with the engine that it meets. -/
def callsMet (json : JsonText) (order : HashOrder) (engine : ConsensusEngine) :
    List RawToolCall → List (RawToolCall × ConsensusEngine)
  | [] => []
  | call :: rest =>
      (call, engine) :: callsMet json order (traceToolCall json order engine call).2 rest

/-- The calls that a response has dispatched, each with the engine that it meets. -/
def dispatchedCalls (json : JsonText) (order : HashOrder) (chunks : List Value)
    (engine : ConsensusEngine) (config : TurnConfig) : List (RawToolCall × ConsensusEngine) :=
  match assemble 64 chunks with
  | .error _ => []
  | .ok message =>
      if config.round ≥ config.maxRounds then []
      else callsMet json order engine message.toolCalls

/-- A dispatched call takes effect on the engine that it meets. -/
def TakesEffect (json : JsonText) (order : HashOrder) (met : RawToolCall × ConsensusEngine) :
    Prop :=
  (traceToolCall json order met.2 met.1).2 ≠ met.2

/-- A dispatched call, with arguments that parse, discards the drafts that it meets. -/
def Discards (json : JsonText) (met : RawToolCall × ConsensusEngine) : Prop :=
  (json.fromStr met.1.function.arguments).isOk = true ∧
    DiscardsDrafts met.2 met.1.function.name

variable {json : JsonText} {order : HashOrder}

/-- A call that takes effect mutates drafts and says so, or discards them. -/
theorem TakesEffect.cases {met : RawToolCall × ConsensusEngine}
    (takes : TakesEffect json order met) :
    mutatesDrafts (traceToolCall json order met.2 met.1).1 = true ∨ Discards json met := by
  obtain ⟨call, engine⟩ := met
  unfold TakesEffect traceToolCall Tools.runToolCall at takes
  unfold traceToolCall Tools.runToolCall Discards mutatesDrafts
  dsimp only at takes ⊢
  cases parsed : json.fromStr call.function.arguments with
  | error error =>
      rw [parsed] at takes
      exact absurd rfl takes
  | ok arguments =>
      rw [parsed] at takes
      dsimp only at takes ⊢
      have effect := dispatch_effect order engine call.function.name arguments
      generalize Tools.dispatch order engine call.function.name arguments = dispatched at *
      cases effect with
      | stays result => exact absurd rfl takes
      | mutates isMutation value next => exact .inl isMutation
      | discards discards value => exact .inr ⟨rfl, discards⟩

/-- A call that discards drafts takes effect. -/
theorem Discards.takesEffect {met : RawToolCall × ConsensusEngine} (discards : Discards json met) :
    TakesEffect json order met := by
  obtain ⟨call, engine⟩ := met
  obtain ⟨parses, pending⟩ := discards
  unfold TakesEffect traceToolCall Tools.runToolCall
  dsimp only at parses ⊢
  cases parsed : json.fromStr call.function.arguments with
  | error error =>
      rw [parsed] at parses
      cases parses
  | ok arguments =>
      have emptied : (Tools.dispatch order engine call.function.name arguments).2 =
          engine.clearDrafts := pending.dispatch order arguments
      rw [show _ = engine.clearDrafts from emptied]
      exact clearDrafts_ne pending.1

/-- A batch in which no call takes effect leaves the engine as it is. -/
theorem traceToolCalls_kept {engine : ConsensusEngine} {calls : List RawToolCall}
    (none : ∀ met ∈ callsMet json order engine calls, ¬TakesEffect json order met) :
    (traceToolCalls json order engine calls).2 = engine := by
  induction calls generalizing engine with
  | nil => rfl
  | cons call rest ih =>
      have kept : (traceToolCall json order engine call).2 = engine :=
        not_not.mp (none (call, engine) List.mem_cons_self)
      have later := ih fun met member => none met (List.mem_cons_of_mem _ member)
      rw [kept] at later
      rw [traceToolCalls]
      dsimp only
      rw [kept]
      exact later

/-- The trace of every call is in the trace of the round. -/
theorem trace_mem_traceToolCalls {engine : ConsensusEngine} {calls : List RawToolCall}
    {met : RawToolCall × ConsensusEngine} (member : met ∈ callsMet json order engine calls) :
    (traceToolCall json order met.2 met.1).1 ∈ (traceToolCalls json order engine calls).1 := by
  induction calls generalizing engine with
  | nil => cases member
  | cons call rest ih =>
      rw [traceToolCalls]
      rcases List.mem_cons.mp member with rfl | later
      · exact List.mem_cons_self
      · exact List.mem_cons_of_mem _ (ih later)

/-- Every tool that counts as a mutation is advertised. -/
theorem mutation_advertised {tool : String} (isMutation : isDraftMutationTool tool = true) :
    tool ∈ Tools.llmToolDefinitions.map (·.name) := by
  have names := List.contains_iff_mem.mp isMutation
  simp only [List.mem_cons, List.not_mem_nil, or_false] at names
  rcases names with rfl | rfl | rfl | rfl | rfl | rfl <;> decide +kernel

/-- No tool that discards the drafts is advertised. -/
theorem discard_not_advertised {engine : ConsensusEngine} {tool : String}
    (discards : DiscardsDrafts engine tool) : tool ∉ Tools.llmToolDefinitions.map (·.name) := by
  rcases discards.2 with rfl | ⟨rfl, _⟩ <;> decide +kernel

/-! ### Noticed changes

A round notices a change of the drafts exactly when one of its calls counts as a mutation and
succeeded, so a change goes unnoticed only through a discarding tool. -/

/-- Every change of the draft buffer ends the turn with a synthesized confirmation, and only tools
that are advertised to the model take effect. -/
structure DraftChangesNoticed (json : JsonText) (order : HashOrder) (chunks : List Value)
    (engine : ConsensusEngine) (history : List Value) (config : TurnConfig) : Prop where
  confirmed :
    let result := processLlmResponse json order chunks engine history config
    result.engine.drafts ≠ engine.drafts →
      ∃ roundTrace, result.step =
        .ok (.final (synthesizeMutationFollowUp order result.engine roundTrace.toolResults)
          roundTrace)
  advertised : ∀ met ∈ dispatchedCalls json order chunks engine config,
    TakesEffect json order met → met.1.function.name ∈ Tools.llmToolDefinitions.map (·.name)

/-- Either the response has calls dispatched, or the engine stays. -/
theorem processLlmResponse_cases (json : JsonText) (order : HashOrder) (chunks : List Value)
    (engine : ConsensusEngine) (history : List Value) (config : TurnConfig) :
    (processLlmResponse json order chunks engine history config).engine = engine ∨
    ∃ past roundTrace calls,
      dispatchedCalls json order chunks engine config = callsMet json order engine calls ∧
      processLlmResponse json order chunks engine history config =
        dispatchToolCalls json order engine past config roundTrace calls := by
  unfold processLlmResponse dispatchedCalls
  cases assemble 64 chunks with
  | error error => exact .inl rfl
  | ok message =>
      dsimp only
      split
      · exact .inl rfl
      · split
        · exact .inl rfl
        · exact .inr ⟨_, _, message.toolCalls, rfl, rfl⟩

variable {engine : ConsensusEngine} {history : List Value} {config : TurnConfig}
  {roundTrace : LlmRoundTrace} {calls : List RawToolCall}

/-- The engine after a round is the one after its calls, whatever the round ends with. -/
theorem dispatchToolCalls_engine :
    (dispatchToolCalls json order engine history config roundTrace calls).engine =
      (traceToolCalls json order engine calls).2 := by
  unfold dispatchToolCalls
  dsimp only
  split <;> rfl

/-- A round in which a draft mutation succeeded ends the turn with the confirmation that is made of
the drafts. -/
theorem dispatchToolCalls_mutated
    (mutated : (traceToolCalls json order engine calls).1.any mutatesDrafts = true) :
    (dispatchToolCalls json order engine history config roundTrace calls).step =
      .ok (.final
        (synthesizeMutationFollowUp order (traceToolCalls json order engine calls).2
          (traceToolCalls json order engine calls).1)
        { roundTrace with toolResults := (traceToolCalls json order engine calls).1 }) := by
  unfold dispatchToolCalls
  dsimp only
  rw [if_pos mutated]

/-- Changes of the draft buffer are noticed exactly when no dispatched call discards drafts. -/
theorem draft_changes_noticed_iff (json : JsonText) (order : HashOrder) (chunks : List Value)
    (engine : ConsensusEngine) (history : List Value) (config : TurnConfig) :
    DraftChangesNoticed json order chunks engine history config ↔
      ∀ met ∈ dispatchedCalls json order chunks engine config, ¬Discards json met := by
  constructor
  · intro noticed met member discards
    have listed := noticed.advertised met member discards.takesEffect
    exact discard_not_advertised discards.2 listed
  · intro kept
    constructor
    · intro result changed
      rcases processLlmResponse_cases json order chunks engine history config with
        same | ⟨past, roundTrace, calls, dispatched, processed⟩
      · exact absurd (congrArg (·.drafts) same) changed
      · have engineAfter : result.engine = (traceToolCalls json order engine calls).2 := by
          rw [← dispatchToolCalls_engine, ← processed]
        have mutated : (traceToolCalls json order engine calls).1.any mutatesDrafts = true := by
          by_contra quiet
          apply changed
          rw [engineAfter, traceToolCalls_kept]
          intro met member takes
          rcases takes.cases with mutates | discards
          · apply quiet
            exact List.any_eq_true.mpr ⟨_, trace_mem_traceToolCalls member, mutates⟩
          · exact kept met (dispatched ▸ member) discards
        refine ⟨{ roundTrace with toolResults := (traceToolCalls json order engine calls).1 }, ?_⟩
        rw [engineAfter]
        exact (congrArg Processed.step processed).trans (dispatchToolCalls_mutated mutated)
    · intro met member takes
      rcases takes.cases with mutates | discards
      · unfold mutatesDrafts at mutates
        exact mutation_advertised (Bool.and_elim_right mutates)
      · exact absurd discards (kept met member)

/-! ### A change that goes unnoticed -/

/-- The JSON texts of a call to `clear_drafts` and of its answer. -/
def clearingText : JsonText where
  fromStr := fun text => if text = "\x7b\x7d" then .ok (.object []) else .error "expected value"
  toStringPretty := fun value =>
    if value = Tools.clearedAnswer 1 then "\x7b\n  \"cleared\": 1\n\x7d" else "null"

def draftingEngine : ConsensusEngine :=
  ((ConsensusEngine.new "ava").draftClaim "Use JWT" .proposal none).2

def firstRound : TurnConfig :=
  { round := 0, maxRounds := maxToolRounds, maxHistory := 20, model := "model",
    participant := "ava" }

def clearingChunks : List Value :=
  [toolCallChunk "call_1" "clear_drafts" "\x7b\x7d"]

def endsTurn : TurnStep → Bool
  | .final _ _ => true
  | _ => false

/-- The model calls `clear_drafts`: the draft is gone and the turn goes on without a word. -/
theorem clearing_unnoticed :
    ¬DraftChangesNoticed clearingText .insertion clearingChunks draftingEngine [] firstRound := by
  intro noticed
  have changed : (processLlmResponse clearingText .insertion clearingChunks draftingEngine []
      firstRound).engine.drafts ≠ draftingEngine.drafts := by
    decide +kernel
  obtain ⟨roundTrace, final⟩ := noticed.confirmed changed
  have goesOn : (processLlmResponse clearingText .insertion clearingChunks draftingEngine []
      firstRound).step.toOption.any endsTurn = false := by
    decide +kernel
  rw [final] at goesOn
  cases goesOn

end ProstheticConscience.Consensus.LlmTurn
