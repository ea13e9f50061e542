/-
Module: ProstheticConscience.Consensus.ToolExecution
Purpose: Tool execution in the browser app, and its agreement with the dispatch of the terminal
  client: on related states a call fails on both sides or gives both the same answer.
Trusted boundary: none
Main exports: BrowserApp.ToolOutput, BrowserApp.executeTool, BrowserApp.executeToolCalls,
  AppTool.perform, SameDeliberation, tools_agree
-/
import ProstheticConscience.Consensus.AppTools
import ProstheticConscience.Library.Results

namespace ProstheticConscience.Consensus

namespace BrowserApp

inductive ToolOutput where
  | overview (data : OverviewData)
  | claimDetail (detail : Option ClaimDetail)
  | showDrafts (drafts : List DraftEntry)
  | previewOverview (data : OverviewData)
  | previewClaimDetail (detail : Option ClaimDetail)
  | impactAnalysis (impact : ImpactAnalysis)
  | draftClaim (draftId : DraftId)
  | draftRelation (draftId : DraftId)
  | draftStance (draftId : DraftId)
  | draftResolve (draftId : DraftId)
  | draftComment (draftId : DraftId)
  | removeDraft (removed : DraftId)
deriving DecidableEq, Repr

inductive ToolCallError where
  | decode (error : ToolDecodeError)
  | execution (error : EngineError)
deriving DecidableEq, Repr

inductive ToolCallOutcome where
  | success (output : ToolOutput)
  | error (error : ToolCallError)
deriving DecidableEq, Repr

structure ToolExecution where
  callId : String
  outcome : ToolCallOutcome
deriving DecidableEq, Repr

structure ToolBatchExecution where
  state : State
  outcomes : List ToolExecution
  domainMutated : Bool
deriving DecidableEq

def toolOutputValue : ToolOutput → Value
  | .overview data => data.toValue
  | .claimDetail detail => nullable ClaimDetail.toValue detail
  | .showDrafts drafts => .array (drafts.map DraftEntry.toValue)
  | .previewOverview data => data.toValue
  | .previewClaimDetail detail => nullable ClaimDetail.toValue detail
  | .impactAnalysis impact => impact.toValue
  | .draftClaim draftId | .draftRelation draftId | .draftStance draftId
  | .draftResolve draftId | .draftComment draftId => Tools.draftIdAnswer draftId
  | .removeDraft removed => Tools.removedAnswer removed

variable (order : HashOrder) (state : State)

def claimDetail (claimId : ClaimId) : Option ClaimDetail :=
  order.claimDetail state.coordinator.committedPrefix claimId

def previewOverview : Except EngineError OverviewData :=
  order.previewOverview state.coordinator.committedPrefix (Drafts.showDrafts state.drafts)
    state.participant

def previewClaimDetail (claim : ClaimRef) : Except EngineError (Option ClaimDetail) :=
  order.previewClaimDetail state.coordinator.committedPrefix (Drafts.showDrafts state.drafts)
    state.participant claim

def impactAnalysis : Except EngineError ImpactAnalysis :=
  order.impactAnalysis state.coordinator.committedPrefix (Drafts.showDrafts state.drafts)
    state.participant

/-- The answer to a query: the state stays, nothing is mutated. -/
def queried (output : ToolOutput) : State × ToolOutput × Bool :=
  (state, output, false)

/-- The result of a drafting function. -/
def drafted (output : DraftId → ToolOutput) (result : Drafts.State × DraftId) :
    State × ToolOutput × Bool :=
  ({ state with drafts := result.1 }, output result.2, true)

/-- Execute a decoded tool: the state after it, its output, and whether it mutates drafts. -/
def executeTool : AppTool → Except EngineError (State × ToolOutput × Bool)
  | .overview =>
      .ok (queried state
        (.overview (order.overviewFromEntries state.coordinator.committedPrefix)))
  | .claimDetail claimId => .ok (queried state (.claimDetail (claimDetail order state claimId)))
  | .showDrafts => .ok (queried state (.showDrafts (Drafts.showDrafts state.drafts)))
  | .previewOverview =>
      (previewOverview order state).map fun data => queried state (.previewOverview data)
  | .previewClaimDetail claim =>
      (previewClaimDetail order state claim).map fun detail =>
        queried state (.previewClaimDetail detail)
  | .impactAnalysis =>
      (impactAnalysis order state).map fun impact => queried state (.impactAnalysis impact)
  | .draftClaim body kind parent =>
      (Drafts.draftClaim state.drafts body kind parent).map (drafted state .draftClaim)
  | .draftRelation source target kind =>
      (Drafts.draftRelation state.drafts source target kind).map (drafted state .draftRelation)
  | .draftStance target position =>
      (Drafts.draftStance state.drafts target position).map (drafted state .draftStance)
  | .draftResolve claim outcome =>
      (Drafts.draftResolve state.drafts claim outcome).map (drafted state .draftResolve)
  | .draftComment body claim =>
      (Drafts.draftComment state.drafts body claim).map (drafted state .draftComment)
  | .removeDraft draftId =>
      (Drafts.removeDraft state.drafts draftId).map fun drafts =>
        ({ state with drafts }, .removeDraft draftId, true)

variable (fromStr : String → Except String Value)

/-- One call of a batch: its outcome, whether it mutates drafts, and the state after it. -/
def executeToolCall (call : RawToolCall) : ToolCallOutcome × Bool × State :=
  match AppTools.decodeToolCall fromStr call with
  | .ok tool =>
      match executeTool order state tool with
      | .ok (next, output, mutated) => (.success output, mutated, next)
      | .error error => (.error (.execution error), false, state)
  | .error error => (.error (.decode error), false, state)

/-- Execute a batch of calls in order; a failed call does not stop the batch. -/
def executeToolCalls (calls : List RawToolCall) : ToolBatchExecution :=
  calls.foldl
    (fun batch call =>
      let (outcome, mutated, next) := executeToolCall order batch.state fromStr call
      { state := next
        outcomes := batch.outcomes ++ [{ callId := call.id, outcome }]
        domainMutated := batch.domainMutated || mutated })
    { state, outcomes := [], domainMutated := false }

end BrowserApp

/-! ### Both argument decoders read the same arguments -/

/-- Both dispatchers read a required argument alike: the same value, or an error in both. -/
theorem require_agrees {α : Type} (read : Value → Option α) (expected : String) (args : Value)
    (field : String) :
    ResultsAgree Eq (Tools.require read args field)
      (AppTools.requireRead read expected args field) := by
  unfold Tools.require AppTools.requireRead AppTools.requireValue
  cases args.get field with
  | none => exact .failed _ _
  | some value =>
      dsimp only [Option.bind_some, bind, Except.bind]
      cases read value with
      | none => exact .failed _ _
      | some result => exact .succeeded rfl

/-- Both dispatchers read a claim reference alike. -/
theorem parseClaimRef_agrees (value : Value) (field : String) :
    ResultsAgree Eq (Tools.parseClaimRef value field) (AppTools.parseClaimRef value field) := by
  unfold Tools.parseClaimRef AppTools.parseClaimRef
  cases ClaimRef.fromJsonValue value with
  | none => exact .failed _ _
  | some claimRef => exact .succeeded rfl

/-- Both dispatchers read a required claim reference alike. -/
theorem requireClaimRef_agrees (args : Value) (field : String) :
    ResultsAgree Eq (Tools.requireClaimRef args field) (AppTools.requireClaimRef args field) := by
  unfold Tools.requireClaimRef AppTools.requireClaimRef AppTools.requireValue
  cases args.get field with
  | none => exact .failed _ _
  | some value => exact parseClaimRef_agrees value field

/-- Both dispatchers read an optional claim reference alike. -/
theorem optionalClaimRef_agrees (args : Value) (field : String) :
    ResultsAgree Eq (Tools.optionalClaimRef args field)
      (AppTools.optionalClaimRef args field) := by
  unfold Tools.optionalClaimRef AppTools.optionalClaimRef
  cases args.get field with
  | none => exact .succeeded rfl
  | some value =>
      apply (parseClaimRef_agrees value field).map
      intro a b same
      rw [same]

/-- Both dispatchers read a named constant alike. -/
theorem requireNamed_agrees {α : Type} (kind : String) (named : String → Option α) (args : Value)
    (field : String) :
    ResultsAgree Eq (Tools.requireNamed kind named args field)
      (AppTools.requireNamed kind named args field) := by
  apply (require_agrees Value.asStr "a string" args field).bind_eq
  intro other
  cases named other with
  | none => exact .failed _ _
  | some value => exact .succeeded rfl

/-! ### What a decoded tool does to an engine

`Carries` relates an engine's method to the decoded tool that should do the same; one lemma per
family of tools. -/

/-- The answer of a decoded tool on an engine, and the engine after it. -/
def AppTool.perform (order : HashOrder) (engine : ConsensusEngine) :
    AppTool → Except EngineError Value × ConsensusEngine
  | .overview => (.ok (order.overviewFromEntries engine.log).toValue, engine)
  | .claimDetail claimId =>
      (.ok (nullable ClaimDetail.toValue (order.claimDetail engine.log claimId)), engine)
  | .showDrafts => (.ok (.array (engine.showDrafts.map DraftEntry.toValue)), engine)
  | .previewOverview =>
      ((order.previewOverview engine.log engine.drafts engine.draftAuthor).map
        OverviewData.toValue, engine)
  | .previewClaimDetail claim =>
      ((order.previewClaimDetail engine.log engine.drafts engine.draftAuthor claim).map
        (nullable ClaimDetail.toValue), engine)
  | .impactAnalysis =>
      ((order.impactAnalysis engine.log engine.drafts engine.draftAuthor).map
        ImpactAnalysis.toValue, engine)
  | .draftClaim body kind parent =>
      (engine.draftClaim body kind parent).map (·.map Tools.draftIdAnswer) id
  | .draftRelation source target kind =>
      (engine.draftRelation source target kind).map (·.map Tools.draftIdAnswer) id
  | .draftStance target position =>
      (engine.draftStance target position).map (·.map Tools.draftIdAnswer) id
  | .draftResolve claim outcome =>
      (engine.draftResolve claim outcome).map (·.map Tools.draftIdAnswer) id
  | .draftComment body claim =>
      (engine.draftComment body claim).map (·.map Tools.draftIdAnswer) id
  | .removeDraft draftId =>
      (engine.removeDraft draftId).map (·.map fun _ => Tools.removedAnswer draftId) id

/-- A client that works on an engine does what the decoded call says, or nothing if the call does
not decode. -/
inductive Performs (order : HashOrder) (engine : ConsensusEngine) :
    Except ToolDecodeError AppTool → Except ToolError Value × ConsensusEngine → Prop
  | rejected (decodeError : ToolDecodeError) (error : ToolError) :
      Performs order engine (.error decodeError) (.error error, engine)
  | performed (tool : AppTool) :
      Performs order engine (.ok tool)
        ((tool.perform order engine).1.mapError .engine, (tool.perform order engine).2)

/-- A dispatched method and a decoded tool that do the same. -/
def Carries (order : HashOrder) (engine : ConsensusEngine) {α : Type} (toValue : α → Value)
    (method : Except EngineError α × ConsensusEngine) (tool : AppTool) : Prop :=
  tool.perform order engine = (method.1.map toValue, method.2)

section Dispatch

variable {order : HashOrder} {engine : ConsensusEngine}

/-- When the arguments are decoded alike and the engine's method does what the decoded tool does,
the whole call does. -/
theorem report_performs {α : Type} {toValue : α → Value}
    {action : Except ToolError (Except EngineError α × ConsensusEngine)}
    {decoded : Except ToolDecodeError AppTool}
    (agree : ResultsAgree (Carries order engine toValue) action decoded) :
    Performs order engine decoded (Tools.report engine toValue action) := by
  cases agree with
  | failed error decodeError => exact .rejected decodeError error
  | @succeeded method tool carries =>
      have performed : Performs order engine (.ok tool) _ := .performed tool
      rw [Carries] at carries
      rw [carries] at performed
      exact performed

/-- Removing a draft from the engine does what the decoded tool does, answer included. -/
theorem removeDraft_carries (draftId : DraftId) :
    Carries order engine Tools.removedAnswer
      ((engine.removeDraft draftId).map (·.map fun _ => draftId) id) (.removeDraft draftId) := by
  rw [Carries, AppTool.perform]
  cases engine.removeDraft draftId with
  | mk result next =>
      cases result with
      | error error => rfl
      | ok done => rfl

/-- Dispatching a tool that is advertised is decoding it and performing it. -/
theorem dispatch_performs {name : String}
    (advertised : name ∈ Tools.llmToolDefinitions.map (·.name)) (args : Value) :
    Performs order engine (AppTools.decodeArguments name args)
      (Tools.dispatch order engine name args) := by
  have names : name ∈ ["overview", "claim_detail", "draft_claim", "draft_relation",
      "draft_stance", "draft_resolve", "draft_comment", "show_drafts", "remove_draft",
      "preview_overview", "preview_claim_detail", "impact_analysis"] := advertised
  simp only [List.mem_cons, List.not_mem_nil, or_false] at names
  rcases names with rfl | rfl | rfl | rfl | rfl | rfl | rfl | rfl | rfl | rfl | rfl | rfl
  · exact .performed .overview
  · apply report_performs
    apply (require_agrees _ _ _ _).bind_eq
    intro id
    exact .succeeded rfl
  · apply report_performs
    apply (require_agrees _ _ _ _).bind_eq
    intro body
    apply (requireNamed_agrees _ _ _ _).bind_eq
    intro kind
    apply (optionalClaimRef_agrees _ _).bind_eq
    intro parent
    exact .succeeded rfl
  · apply report_performs
    apply (requireClaimRef_agrees _ _).bind_eq
    intro source
    apply (requireClaimRef_agrees _ _).bind_eq
    intro target
    apply (requireNamed_agrees _ _ _ _).bind_eq
    intro kind
    exact .succeeded rfl
  · apply report_performs
    apply (requireClaimRef_agrees _ _).bind_eq
    intro target
    apply (requireNamed_agrees _ _ _ _).bind_eq
    intro position
    exact .succeeded rfl
  · apply report_performs
    apply (requireClaimRef_agrees _ _).bind_eq
    intro claim
    apply (requireNamed_agrees _ _ _ _).bind_eq
    intro outcome
    exact .succeeded rfl
  · apply report_performs
    apply (require_agrees _ _ _ _).bind_eq
    intro body
    apply (optionalClaimRef_agrees _ _).bind_eq
    intro claim
    exact .succeeded rfl
  · exact .performed .showDrafts
  · apply report_performs
    apply (require_agrees _ _ _ _).bind_eq
    intro draftId
    exact .succeeded (removeDraft_carries draftId)
  · exact .performed .previewOverview
  · apply report_performs
    apply (requireClaimRef_agrees _ _).bind_eq
    intro claim
    exact .succeeded rfl
  · exact .performed .impactAnalysis

end Dispatch

/-! ### The browser app on the same engine

The browser app has no engine but a log and a buffer of drafts, which together stand for one. Each
of its tools is shown to do on that engine what the engine's own method does. -/

namespace BrowserApp

/-- The engine that a browser state stands for. -/
def State.asEngine (state : State) : ConsensusEngine :=
  state.drafts.onLog state.coordinator.committedPrefix state.participant

/-- The result of executing a tool, seen on the engine. -/
def onEngine (state : State) :
    Except EngineError (State × ToolOutput × Bool) → Except EngineError Value × ConsensusEngine
  | .ok (next, output, _) => (.ok (toolOutputValue output), next.asEngine)
  | .error error => (.error error, state.asEngine)

/-- A query of the browser app, seen on the engine that its state stands for. -/
theorem onEngine_queried {α : Type} (state : State) (result : Except EngineError α)
    (output : α → ToolOutput) (toValue : α → Value)
    (value : ∀ data, toolOutputValue (output data) = toValue data) :
    onEngine state (result.map fun data => queried state (output data)) =
      (result.map toValue, state.asEngine) := by
  cases result with
  | error error => rfl
  | ok data =>
      have same := value data
      rw [← funext value]
      rfl

/-- A new draft of the browser app, seen on the engine that its state stands for. -/
theorem onEngine_drafted (state : State) (content : DraftContent) (output : DraftId → ToolOutput)
    (value : ∀ draftId, toolOutputValue (output draftId) = Tools.draftIdAnswer draftId) :
    onEngine state ((Drafts.pushDraft state.drafts content).map (drafted state output)) =
      (state.asEngine.pushDraft content).map (·.map Tools.draftIdAnswer) id := by
  rw [State.asEngine, Drafts.pushDraft_onLog, ← funext value]
  cases Drafts.pushDraft state.drafts content with
  | error error => rfl
  | ok result => rfl

/-- Executing a tool does what the tool does to the engine. -/
theorem executeTool_onEngine (order : HashOrder) (state : State) (tool : AppTool) :
    onEngine state (executeTool order state tool) = tool.perform order state.asEngine := by
  cases tool with
  | overview => rfl
  | claimDetail claimId => rfl
  | showDrafts => rfl
  | previewOverview => exact onEngine_queried state _ _ _ fun _ => rfl
  | previewClaimDetail claim => exact onEngine_queried state _ _ _ fun _ => rfl
  | impactAnalysis => exact onEngine_queried state _ _ _ fun _ => rfl
  | draftClaim body kind parent => exact onEngine_drafted state _ _ fun _ => rfl
  | draftRelation source target kind => exact onEngine_drafted state _ _ fun _ => rfl
  | draftStance target position => exact onEngine_drafted state _ _ fun _ => rfl
  | draftResolve claim outcome => exact onEngine_drafted state _ _ fun _ => rfl
  | draftComment body claim => exact onEngine_drafted state _ _ fun _ => rfl
  | removeDraft draftId =>
      rw [AppTool.perform, State.asEngine, Drafts.removeDraft_onLog, executeTool]
      cases Drafts.removeDraft state.drafts draftId with
      | error error => rfl
      | ok drafts => rfl

end BrowserApp

/-! ### Agreement

One call in related states is answered alike and leaves related states; over any calls by induction.
-/

/-- An engine and a browser state with the same committed log, drafts, next draft id and author. -/
structure SameDeliberation (engine : ConsensusEngine) (state : BrowserApp.State) : Prop where
  log : engine.log = state.coordinator.committedPrefix
  drafts : engine.drafts = state.drafts.drafts
  nextDraftId : engine.nextDraftId = state.drafts.nextDraftId
  draftAuthor : engine.draftAuthor = state.participant

/-- The engine that agrees with a state of the browser app is the one it stands for. -/
theorem SameDeliberation.eq_asEngine {engine : ConsensusEngine} {state : BrowserApp.State}
    (same : SameDeliberation engine state) : engine = state.asEngine := by
  cases engine with
  | mk log drafts nextDraftId draftAuthor =>
      obtain ⟨rfl, rfl, rfl, rfl⟩ := same
      rfl

/-- A state of the browser app agrees with the engine it stands for. -/
theorem SameDeliberation.asEngine (state : BrowserApp.State) :
    SameDeliberation state.asEngine state :=
  ⟨rfl, rfl, rfl, rfl⟩

/-- A call fails for both clients and changes neither state, or gives both the same answer and
related states. -/
inductive SameAnswer (engine : ConsensusEngine) (state : BrowserApp.State) :
    Except Tools.CallError Value × ConsensusEngine →
      BrowserApp.ToolCallOutcome × Bool × BrowserApp.State → Prop where
  | bothFail (cliError : Tools.CallError) (appError : BrowserApp.ToolCallError) (mutated : Bool) :
      SameAnswer engine state (.error cliError, engine) (.error appError, mutated, state)
  | bothSucceed (output : BrowserApp.ToolOutput) (mutated : Bool) {engineAfter : ConsensusEngine}
      {stateAfter : BrowserApp.State} (same : SameDeliberation engineAfter stateAfter) :
      SameAnswer engine state (.ok (BrowserApp.toolOutputValue output), engineAfter)
        (.success output, mutated, stateAfter)

/-- Calls that are answered alike leave deliberations that agree again. -/
theorem SameAnswer.same {engine : ConsensusEngine} {state : BrowserApp.State}
    (same : SameDeliberation engine state)
    {cli : Except Tools.CallError Value × ConsensusEngine}
    {app : BrowserApp.ToolCallOutcome × Bool × BrowserApp.State}
    (answer : SameAnswer engine state cli app) : SameDeliberation cli.2 app.2.2 := by
  cases answer with
  | bothFail cliError appError mutated => exact same
  | bothSucceed output mutated after => exact after

/-- A call of type `function` to a tool that is advertised to the model. -/
structure Advertised (call : RawToolCall) : Prop where
  callType : call.callType = "function"
  name : call.function.name ∈ Tools.llmToolDefinitions.map (·.name)

/-- On related states both clients answer a call alike. -/
theorem runToolCall_agrees (fromStr : String → Except String Value) (order : HashOrder)
    {call : RawToolCall} (advertised : Advertised call) (state : BrowserApp.State) :
    SameAnswer state.asEngine state
      (Tools.runToolCall fromStr order state.asEngine call.function)
      (BrowserApp.executeToolCall order state fromStr call) := by
  unfold Tools.runToolCall BrowserApp.executeToolCall AppTools.decodeToolCall
  rw [if_neg (not_not.mpr advertised.callType)]
  cases fromStr call.function.arguments with
  | error error => exact .bothFail _ _ _
  | ok arguments =>
      have performs : Performs order state.asEngine
          (AppTools.decodeArguments call.function.name arguments)
          (Tools.dispatch order state.asEngine call.function.name arguments) :=
        dispatch_performs advertised.name arguments
      dsimp only
      generalize AppTools.decodeArguments call.function.name arguments = decoded at performs
      generalize Tools.dispatch order state.asEngine call.function.name arguments =
        dispatched at performs
      cases performs with
      | rejected decodeError error => exact .bothFail _ _ _
      | performed tool =>
          rw [← BrowserApp.executeTool_onEngine]
          dsimp only
          cases BrowserApp.executeTool order state tool with
          | error error => exact .bothFail _ _ _
          | ok result =>
              obtain ⟨next, output, mutated⟩ := result
              exact .bothSucceed output mutated (.asEngine next)

/-- The engine after some calls, each with the iteration order that it meets. -/
def Tools.engineAfter (fromStr : String → Except String Value) (engine : ConsensusEngine)
    (calls : List (HashOrder × RawToolCall)) : ConsensusEngine :=
  calls.foldl (fun engine call => (runToolCall fromStr call.1 engine call.2.function).2) engine

/-- The browser state after some calls. -/
def BrowserApp.stateAfter (fromStr : String → Except String Value) (state : State)
    (calls : List (HashOrder × RawToolCall)) : State :=
  calls.foldl (fun state call => (executeToolCall call.1 state fromStr call.2).2.2) state

/-- The run lemma: after any advertised calls the deliberations still agree, by induction on the
calls. -/
theorem SameDeliberation.after (fromStr : String → Except String Value)
    {engine : ConsensusEngine} {state : BrowserApp.State} (same : SameDeliberation engine state)
    {calls : List (HashOrder × RawToolCall)} (advertised : ∀ call ∈ calls, Advertised call.2) :
    SameDeliberation (Tools.engineAfter fromStr engine calls)
      (BrowserApp.stateAfter fromStr state calls) := by
  induction calls generalizing engine state with
  | nil => exact same
  | cons call rest ih =>
      apply ih
      · rw [same.eq_asEngine]
        apply SameAnswer.same (.asEngine state)
        exact runToolCall_agrees fromStr call.1 (advertised call List.mem_cons_self) state
      · intro later member
        exact advertised later (List.mem_cons_of_mem _ member)

/-- In every sequence of advertised calls from related states, each call fails for both clients and
changes neither state, or gives both the same answer; and the states stay related. -/
theorem tools_agree (fromStr : String → Except String Value) {engine : ConsensusEngine}
    {state : BrowserApp.State} (same : SameDeliberation engine state)
    {calls : List (HashOrder × RawToolCall)} (advertised : ∀ call ∈ calls, Advertised call.2) :
    SameDeliberation (Tools.engineAfter fromStr engine calls)
      (BrowserApp.stateAfter fromStr state calls) ∧
    ∀ earlier order call later, calls = earlier ++ (order, call) :: later →
      SameAnswer (Tools.engineAfter fromStr engine earlier)
        (BrowserApp.stateAfter fromStr state earlier)
        (Tools.runToolCall fromStr order (Tools.engineAfter fromStr engine earlier) call.function)
        (BrowserApp.executeToolCall order (BrowserApp.stateAfter fromStr state earlier) fromStr
          call) := by
  constructor
  · exact same.after fromStr advertised
  · intro earlier order call later split
    subst split
    have before : SameDeliberation (Tools.engineAfter fromStr engine earlier)
        (BrowserApp.stateAfter fromStr state earlier) :=
      same.after fromStr fun known member => advertised known (List.mem_append_left _ member)
    rw [before.eq_asEngine]
    apply runToolCall_agrees
    exact advertised (order, call) (List.mem_append_right _ List.mem_cons_self)

/-- Three calls that draft, of which one names no known position, and one that reads. -/
def stanceCalls : List (HashOrder × RawToolCall) :=
  [(.insertion, ⟨"call_1", "function", ⟨"draft_claim", "claim"⟩⟩),
    (.insertion, ⟨"call_2", "function", ⟨"draft_stance", "stance"⟩⟩),
    (.insertion, ⟨"call_3", "function", ⟨"draft_comment", "claim"⟩⟩),
    (.insertion, ⟨"call_4", "function", ⟨"preview_claim_detail", "detail"⟩⟩)]

/-- The arguments of these calls, under short names for their texts. -/
def stanceArguments (text : String) : Except String Value :=
  match text with
  | "claim" => .ok (.ofMembers [("body", .string "Use JWT"), ("kind", .string "proposal")])
  | "stance" => .ok (.ofMembers [("target", .string "draft:0"), ("position", .string "maybe")])
  | "detail" => .ok (.ofMembers [("claim", .string "#0")])
  | _ => .error "expected value"

def freshApp : BrowserApp.State :=
  (BrowserApp.init "ava" none ⟨"model", 20, 512⟩).state

/-- Two stances drafted by calls, in both clients. -/
theorem stanceCalls_agree :
    SameDeliberation (Tools.engineAfter stanceArguments (.new "ava") stanceCalls)
      (BrowserApp.stateAfter stanceArguments freshApp stanceCalls) ∧
    (BrowserApp.stateAfter stanceArguments freshApp stanceCalls).drafts.drafts.map (·.id) =
      [0, 1] := by
  have fresh : SameDeliberation (.new "ava") freshApp := ⟨rfl, rfl, rfl, rfl⟩
  have advertised : ∀ call ∈ stanceCalls, Advertised call.2 := by
    intro call member
    simp only [stanceCalls, List.mem_cons, List.not_mem_nil, or_false] at member
    rcases member with rfl | rfl | rfl | rfl <;> exact ⟨rfl, by decide +kernel⟩
  exact ⟨(tools_agree stanceArguments fresh advertised).1, by decide +kernel⟩

end ProstheticConscience.Consensus
