/-
Module: ProstheticConscience.Consensus.ToolResults
Purpose: The tool results sent back to the model as JSON: when the error text of a failed call can
  be read back from the content that is written by hand around it.
Trusted boundary: the JSON parser and serializer, and how number literals are read, are parameters
Main exports: Embeds, rejectedText?, embeddedText?, ToolResultIsJson, PushesResults,
  processLlmResponse_pushesResults, tool_results_are_json_iff
-/
import ProstheticConscience.Consensus.DraftNotice
import ProstheticConscience.JsonGrammar

namespace ProstheticConscience.Consensus

open Json (Plain ParsesTo memberText)

/-! ### Error texts -/

theorem plain_append {first second : String} :
    Plain (first ++ second) ↔ Plain first ∧ Plain second := by
  unfold Plain
  rw [String.toList_append, List.all_append, Bool.and_eq_true]

theorem isPlain_of_isDigit {c : Char} (digit : c.isDigit = true) : Json.isPlain c = true := by
  have notQuote : c ≠ '"' := by
    rintro rfl
    exact absurd digit (by decide +kernel)
  have notBackslash : c ≠ '\\' := by
    rintro rfl
    exact absurd digit (by decide +kernel)
  have visible : 0x20 ≤ c.toNat := by
    have least : 48 ≤ c.toNat := by
      simp only [Char.isDigit, Bool.and_eq_true, decide_eq_true_eq] at digit
      exact digit.1
    omega
  simp [Json.isPlain, notQuote, notBackslash, visible]

theorem plain_toString (n : Nat) : Plain (toString n) := by
  apply List.all_eq_true.mpr
  intro c member
  apply isPlain_of_isDigit
  have digits : (toString n).toList = Nat.toDigits 10 n := Nat.toList_repr
  rw [digits] at member
  exact Nat.isDigit_of_mem_toDigits (by decide +kernel) (by decide +kernel) member

/-- A message is plain text around a text, if there is one. -/
def Embeds (message : String) (text? : Option String) : Prop :=
  ∃ before after, Plain before ∧ Plain after ∧ message = before ++ text?.getD "" ++ after

theorem Embeds.of_plain {message : String} (plain : Plain message) : Embeds message none :=
  ⟨message, "", plain, by decide +kernel, by simp⟩

theorem Embeds.plain_iff {message : String} {text? : Option String}
    (embeds : Embeds message text?) : Plain message ↔ ∀ text ∈ text?, Plain text := by
  obtain ⟨before, after, plainBefore, plainAfter, rfl⟩ := embeds
  rw [plain_append, plain_append, and_iff_right plainBefore, and_iff_left plainAfter]
  cases text? with
  | none => simp [Plain]
  | some text => simp

theorem plain_draftId (draftId : DraftId) : Plain (DraftId.debug draftId) := by
  unfold DraftId.debug
  rw [plain_append, plain_append]
  exact ⟨⟨by decide +kernel, plain_toString draftId⟩, by decide +kernel⟩

theorem plain_engineError (error : EngineError) : Plain error.message := by
  cases error with
  | draftNotFound draftId => exact plain_append.mpr ⟨by decide +kernel, plain_draftId draftId⟩
  | draftReferenceMustTargetClaim draftId =>
      exact plain_append.mpr ⟨by decide +kernel, plain_draftId draftId⟩
  | draftReferenced draftId referencedBy =>
      unfold EngineError.message
      rw [plain_append, plain_append, plain_append, plain_append]
      exact ⟨⟨⟨⟨by decide +kernel, plain_draftId draftId⟩, by decide +kernel⟩,
        plain_draftId referencedBy⟩, by decide +kernel⟩

/-! ### What an error text takes from the model

Which characters of an error text come from the model, and which of them break the JSON text that is
put together around it: the error kinds are gone through one by one. -/

open Tools

/-- The string that a member gives, where it is not accepted. -/
def rejectedText? {α : Type} (read : Value → String → Except ToolError α) (args : Value)
    (field : String) : Option String :=
  if (read args field).isOk then none else (args.get field).bind Value.asStr

/-- The tools that can be dispatched. -/
def dispatchedTools : List String :=
  ["overview", "claim_detail", "draft_claim", "draft_relation", "draft_stance", "draft_resolve",
    "draft_comment", "show_drafts", "remove_draft", "submit_drafts", "clear_drafts",
    "preview_overview", "preview_claim_detail", "impact_analysis"]

/-- What a call puts into the error text: the rejected name of a kind, a position or an outcome, if
the arguments read before it are there, or the name of an unknown tool. -/
def modelText? (tool : String) (args : Value) : Option String :=
  match tool with
  | "draft_claim" =>
      if (requireStr args "body").isOk then rejectedText? requireClaimKind args "kind" else none
  | "draft_relation" =>
      if (requireClaimRef args "source").isOk then
        if (requireClaimRef args "target").isOk then rejectedText? requireRelationKind args "kind"
        else none
      else none
  | "draft_stance" =>
      if (requireClaimRef args "target").isOk then rejectedText? requirePosition args "position"
      else none
  | "draft_resolve" =>
      if (requireClaimRef args "claim").isOk then rejectedText? requireOutcome args "outcome"
      else none
  | tool => if tool ∈ dispatchedTools then none else some tool

/-- What a call puts into its error text, the message about arguments that do not parse included. -/
def embeddedText? (fromStr : String → Except String Value) (function : RawToolFunction) :
    Option String :=
  match fromStr function.arguments with
  | .error error => some error
  | .ok args => modelText? function.name args

/-- If decoding fails, then with this text in the message, and else with nothing to embed. -/
structure FailsWith {β : Type} (call : Except ToolError β) (text? : Option String) : Prop where
  error : ∀ error, call = .error error → Embeds error.message text?
  ok : ∀ result, call = .ok result → text? = none

namespace FailsWith

variable {α β : Type}

theorem pure (result : β) : FailsWith (.ok result : Except ToolError β) none where
  error _ failed := by cases failed
  ok _ _ := rfl

/-- A step that fails with a plain message, before what may embed something. -/
theorem bind_plain {first : Except ToolError α} {next : α → Except ToolError β}
    {text? : Option String} (plain : ∀ error, first = .error error → Plain error.message)
    (later : ∀ result, FailsWith (next result) text?) :
    FailsWith (first >>= next) (if first.isOk then text? else none) := by
  cases first with
  | ok result => exact later result
  | error error =>
      constructor
      · intro _ failed
        cases failed
        exact .of_plain (plain error rfl)
      · intro _ succeeded
        cases succeeded

/-- The last step that may embed something. -/
theorem bind_rejected {read : Value → String → Except ToolError α} {args : Value} {field : String}
    {next : α → Except ToolError β}
    (embeds : ∀ error, read args field = .error error →
      Embeds error.message (rejectedText? read args field))
    (later : ∀ result, FailsWith (next result) none) :
    FailsWith (read args field >>= next) (rejectedText? read args field) := by
  cases found : read args field with
  | ok result =>
      have nothing : rejectedText? read args field = none := by
        rw [rejectedText?, found]
        rfl
      rw [nothing]
      exact later result
  | error error =>
      constructor
      · intro _ failed
        cases failed
        exact embeds error found
      · intro _ succeeded
        cases succeeded

/-- Steps that fail with plain messages embed nothing. -/
theorem bind_none {first : Except ToolError α} {next : α → Except ToolError β}
    (plain : ∀ error, first = .error error → Plain error.message)
    (later : ∀ result, FailsWith (next result) none) : FailsWith (first >>= next) none := by
  have bound := bind_plain plain later
  rwa [ite_self] at bound

end FailsWith

theorem plain_require {α : Type} {read : Value → Option α} {args : Value} {field : String}
    (plainField : Plain field) (error : ToolError)
    (failed : require read args field = .error error) : Plain error.message := by
  unfold require at failed
  split at failed
  · cases failed
  · cases failed
    exact plain_append.mpr ⟨by decide +kernel, plainField⟩

theorem plain_parseClaimRef {value : Value} {field : String} (plainField : Plain field)
    (error : ToolError) (failed : parseClaimRef value field = .error error) :
    Plain error.message := by
  unfold parseClaimRef at failed
  split at failed
  · cases failed
  · cases failed
    have plainHint : Plain (field ++
        ": expected a claim reference string (claim:<id>, draft:<n>, #<n>) " ++
        "or an object with exactly one of claim_id or draft_id") :=
      plain_append.mpr ⟨plain_append.mpr ⟨plainField, by decide +kernel⟩, by decide +kernel⟩
    exact plain_append.mpr ⟨by decide +kernel, plainHint⟩

theorem plain_requireClaimRef {args : Value} {field : String} (plainField : Plain field)
    (error : ToolError) (failed : requireClaimRef args field = .error error) :
    Plain error.message := by
  unfold requireClaimRef at failed
  split at failed
  · exact plain_parseClaimRef plainField error failed
  · cases failed
    exact plain_append.mpr ⟨by decide +kernel, plainField⟩

theorem plain_optionalClaimRef {args : Value} {field : String} (plainField : Plain field)
    (error : ToolError) (failed : optionalClaimRef args field = .error error) :
    Plain error.message := by
  unfold optionalClaimRef at failed
  split at failed
  · rename_i value _
    cases parsed : parseClaimRef value field with
    | ok claimRef =>
        rw [parsed] at failed
        cases failed
    | error other =>
        rw [parsed] at failed
        cases failed
        exact plain_parseClaimRef plainField _ parsed
  · cases failed

/-- A name that is not accepted stands in the message as it was given. -/
theorem requireNamed_embeds {α : Type} {kind : String} {named : String → Option α} {args : Value}
    {field : String} (plainKind : Plain kind) (plainField : Plain field) (error : ToolError)
    (failed : requireNamed kind named args field = .error error) :
    Embeds error.message (rejectedText? (requireNamed kind named) args field) := by
  have rejected : (requireNamed kind named args field).isOk = false := by
    rw [failed]
    rfl
  rw [rejectedText?, rejected, if_neg Bool.false_ne_true]
  unfold requireNamed requireStr require at failed
  cases given : (args.get field).bind Value.asStr with
  | none =>
      rw [given] at failed
      cases failed
      exact .of_plain (plain_append.mpr ⟨by decide +kernel, plainField⟩)
  | some other =>
      rw [given] at failed
      cases known : named other with
      | some value =>
          simp only [bind, Except.bind, known] at failed
          cases failed
      | none =>
          simp only [bind, Except.bind, known] at failed
          cases failed
          refine ⟨"invalid argument: " ++ (field ++ ": unknown " ++ kind ++ " '"), "'", ?_,
            by decide +kernel, ?_⟩
          · have plainUnknown : Plain (field ++ ": unknown " ++ kind) :=
              plain_append.mpr ⟨plain_append.mpr ⟨plainField, by decide +kernel⟩, plainKind⟩
            exact plain_append.mpr
              ⟨by decide +kernel, plain_append.mpr ⟨plainUnknown, by decide +kernel⟩⟩
          · change "invalid argument: " ++
              (field ++ ": unknown " ++ kind ++ " '" ++ other ++ "'") = _
            simp only [Option.getD_some, String.append_assoc]

/-- An error of the engine is told in plain text. -/
theorem FailsWith.report {α : Type} {engine : ConsensusEngine} {toValue : α → Value}
    {call : Except ToolError (Except EngineError α × ConsensusEngine)} {text? : Option String}
    (fails : FailsWith call text?) : FailsWith (report engine toValue call).1 text? := by
  cases call with
  | error other =>
      constructor
      · intro error failed
        cases failed
        exact fails.error _ rfl
      · intro _ succeeded
        cases succeeded
  | ok answer =>
      obtain ⟨result, next⟩ := answer
      rw [fails.ok _ rfl]
      cases result with
      | ok value => exact .pure _
      | error engineError =>
          constructor
          · intro error failed
            cases failed
            exact .of_plain (plain_append.mpr ⟨by decide +kernel, plain_engineError engineError⟩)
          · intro _ succeeded
            cases succeeded

/-- What an error of the dispatch takes from the model. -/
theorem dispatch_failsWith (order : HashOrder) (engine : ConsensusEngine) (tool : String)
    (args : Value) : FailsWith (dispatch order engine tool args).1 (modelText? tool args) := by
  unfold dispatch
  split
  · exact (FailsWith.pure _).report
  · apply FailsWith.report
    exact .bind_none (plain_require (by decide +kernel)) fun id => .pure _
  · apply FailsWith.report
    apply FailsWith.bind_plain (plain_require (by decide +kernel))
    intro body
    apply FailsWith.bind_rejected (requireNamed_embeds (by decide +kernel) (by decide +kernel))
    intro kind
    exact .bind_none (plain_optionalClaimRef (by decide +kernel)) fun parent => .pure _
  · apply FailsWith.report
    apply FailsWith.bind_plain (plain_requireClaimRef (by decide +kernel))
    intro source
    apply FailsWith.bind_plain (plain_requireClaimRef (by decide +kernel))
    intro target
    exact .bind_rejected (requireNamed_embeds (by decide +kernel) (by decide +kernel)) fun kind =>
      .pure _
  · apply FailsWith.report
    apply FailsWith.bind_plain (plain_requireClaimRef (by decide +kernel))
    intro target
    exact .bind_rejected (requireNamed_embeds (by decide +kernel) (by decide +kernel))
      fun position => .pure _
  · apply FailsWith.report
    apply FailsWith.bind_plain (plain_requireClaimRef (by decide +kernel))
    intro claim
    exact .bind_rejected (requireNamed_embeds (by decide +kernel) (by decide +kernel))
      fun outcome => .pure _
  · apply FailsWith.report
    apply FailsWith.bind_none (plain_require (by decide +kernel))
    intro body
    exact .bind_none (plain_optionalClaimRef (by decide +kernel)) fun claim => .pure _
  · exact (FailsWith.pure _).report
  · apply FailsWith.report
    exact .bind_none (plain_require (by decide +kernel)) fun draftId => .pure _
  · exact (FailsWith.pure _).report
  · exact (FailsWith.pure _).report
  · exact (FailsWith.pure _).report
  · apply FailsWith.report
    exact .bind_none (plain_requireClaimRef (by decide +kernel)) fun claim => .pure _
  · exact (FailsWith.pure _).report
  · have unknown : modelText? tool args = some tool := by
      unfold modelText?
      split
      · exact absurd rfl (by assumption)
      · exact absurd rfl (by assumption)
      · exact absurd rfl (by assumption)
      · exact absurd rfl (by assumption)
      · rw [if_neg]
        simp only [dispatchedTools, List.mem_cons, List.not_mem_nil, or_false, not_or]
        refine ⟨?_, ?_, ?_, ?_, ?_, ?_, ?_, ?_, ?_, ?_, ?_, ?_, ?_, ?_⟩ <;> assumption
    rw [unknown]
    constructor
    · intro _ failed
      cases failed
      refine ⟨"unknown tool: ", "", by decide +kernel, by decide +kernel, ?_⟩
      rw [Option.getD_some, String.append_empty]
      rfl
    · intro _ succeeded
      cases succeeded

section Call

variable {fromStr : String → Except String Value} {order : HashOrder} {engine : ConsensusEngine}
  {function : RawToolFunction}

/-- What the error of a call takes from the model. -/
theorem runToolCall_embeds {error : CallError}
    (failed : (runToolCall fromStr order engine function).1 = .error error) :
    Embeds error.message (embeddedText? fromStr function) := by
  unfold runToolCall at failed
  unfold embeddedText?
  cases parsed : fromStr function.arguments with
  | error text =>
      rw [parsed] at failed
      cases failed
      refine ⟨"invalid tool call arguments: ", "", by decide +kernel, by decide +kernel, ?_⟩
      rw [Option.getD_some, String.append_empty]
      rfl
  | ok args =>
      have fails := dispatch_failsWith order engine function.name args
      rw [parsed] at failed
      dsimp only at failed ⊢
      cases dispatched : (dispatch order engine function.name args).1 with
      | ok value =>
          rw [dispatched] at failed
          cases failed
      | error toolError =>
          rw [dispatched] at failed
          cases failed
          exact fails.error _ dispatched

/-- A call that succeeds would put nothing into an error text. -/
theorem embeddedText?_of_ok {value : Value}
    (succeeded : (runToolCall fromStr order engine function).1 = .ok value) :
    embeddedText? fromStr function = none := by
  unfold runToolCall at succeeded
  unfold embeddedText?
  cases parsed : fromStr function.arguments with
  | error text =>
      rw [parsed] at succeeded
      cases succeeded
  | ok args =>
      have fails := dispatch_failsWith order engine function.name args
      rw [parsed] at succeeded
      dsimp only at succeeded ⊢
      cases dispatched : (dispatch order engine function.name args).1 with
      | ok answer => exact fails.ok _ dispatched
      | error toolError =>
          rw [dispatched] at succeeded
          cases succeeded

end Call

/-! ### What is sent back

A serializer's answer is a JSON text by its documented behaviour. An error text is not serialized
but put between quotation marks as it is, and is a JSON text exactly when its characters need no
escape. -/

section SentBack

open LlmTurn

variable (json : JsonText) (readNumber : List Char → Option Number) (order : HashOrder)

/-- The result of a call is JSON, and for a failed call the error text can be read back from it. -/
structure ToolResultIsJson (execution : ToolExecutionTrace) : Prop where
  parses : ∃ value, ParsesTo readNumber execution.toolResultContent value
  failed : ∀ error, execution.dispatchError = some error →
    ∃ value, ParsesTo readNumber execution.toolResultContent value ∧
      value.get "error" = some (.string error)

theorem errorContent_eq (error : String) : errorContent error = memberText "error" error := by
  have opening : "\x7b\"" ++ "error" ++ "\":\"" = "\x7b\"error\":\"" := by decide +kernel
  rw [errorContent, memberText, opening]

/-- A call whose answer is serialized as JSON has a JSON result if and only if what its error text
would take from the model stands for itself in a string. -/
theorem toolResultIsJson_iff (met : RawToolCall × ConsensusEngine)
    (serializes : ∀ value, (runToolCall json.fromStr order met.2 met.1.function).1 = .ok value →
      ParsesTo readNumber (json.toStringPretty value) value) :
    ToolResultIsJson readNumber (traceToolCall json order met.2 met.1).1 ↔
      ∀ text ∈ embeddedText? json.fromStr met.1.function, Plain text := by
  cases ran : (runToolCall json.fromStr order met.2 met.1.function).1 with
  | ok value =>
      have content : (traceToolCall json order met.2 met.1).1.toolResultContent =
          json.toStringPretty value := by
        unfold traceToolCall
        dsimp only
        rw [ran]
      have noError : (traceToolCall json order met.2 met.1).1.dispatchError = none := by
        unfold traceToolCall
        dsimp only
        rw [ran]
      rw [embeddedText?_of_ok ran]
      apply iff_of_true
      · constructor
        · rw [content]
          exact ⟨value, serializes value ran⟩
        · rw [noError]
          intro _ failed
          cases failed
      · intro _ embedded
        cases embedded
  | error error =>
      have content : (traceToolCall json order met.2 met.1).1.toolResultContent =
          memberText "error" error.message := by
        rw [← errorContent_eq]
        unfold traceToolCall
        dsimp only
        rw [ran]
      have isError : (traceToolCall json order met.2 met.1).1.dispatchError =
          some error.message := by
        unfold traceToolCall
        dsimp only
        rw [ran]
      have readBack :=
        @Json.memberText_reads_back_iff readNumber "error" (by decide +kernel) error.message
      rw [← (runToolCall_embeds ran).plain_iff, ← readBack]
      constructor
      · intro isJson
        rw [← content]
        exact isJson.failed _ isError
      · intro isRead
        constructor
        · obtain ⟨value, parses, _⟩ := isRead
          rw [content]
          exact ⟨value, parses⟩
        · intro other failed
          rw [isError] at failed
          cases failed
          rw [content]
          exact isRead

end SentBack

/-! ### The tool results of a response

A round pushes one message per call to the history, in the order of the calls, with the content that
its dispatch returned; so the statement about results is one about messages. -/

def TurnStep.roundTrace : TurnStep → LlmRoundTrace
  | .final _ roundTrace => roundTrace
  | .needsRequest _ roundTrace => roundTrace
  | .maxRoundsExceeded roundTrace => roundTrace

namespace LlmTurn

/-- The tool results of a response. -/
def Processed.toolResults (processed : Processed) : List ToolExecutionTrace :=
  match processed.step with
  | .ok step => step.roundTrace.toolResults
  | .error _ => []

section Response

variable (json : JsonText) (order : HashOrder) (chunks : List Value) (engine : ConsensusEngine)
  (history : List Value) (config : TurnConfig)

theorem traceToolCalls_eq (calls : List RawToolCall) (engine : ConsensusEngine) :
    (traceToolCalls json order engine calls).1 =
      (callsMet json order engine calls).map fun met =>
        (traceToolCall json order met.2 met.1).1 := by
  induction calls generalizing engine with
  | nil => rfl
  | cons call rest ih =>
      rw [traceToolCalls]
      dsimp only
      rw [ih, callsMet, List.map_cons]

theorem dispatchToolCalls_toolResults (roundTrace : LlmRoundTrace) (calls : List RawToolCall) :
    (dispatchToolCalls json order engine history config roundTrace calls).toolResults =
      (traceToolCalls json order engine calls).1 := by
  unfold dispatchToolCalls
  dsimp only
  split <;> rfl

/-- The tool results of a response are those of the calls that it has dispatched. -/
theorem processLlmResponse_toolResults :
    (processLlmResponse json order chunks engine history config).toolResults =
      (dispatchedCalls json order chunks engine config).map fun met =>
        (traceToolCall json order met.2 met.1).1 := by
  unfold processLlmResponse dispatchedCalls
  cases assemble 64 chunks with
  | error error => rfl
  | ok message =>
      dsimp only
      split
      · rename_i noCalls
        rw [List.isEmpty_iff.mp noCalls]
        split <;> rfl
      · split
        · rfl
        · rw [dispatchToolCalls_toolResults, traceToolCalls_eq]

/-- The tool results reach the history as tool messages behind the messages that stand there
already.  The turn is then closed by an answer, or the history is truncated for the next request. -/
def PushesResults (history : List Value) (config : TurnConfig) (processed : Processed) : Prop :=
  let pushed := history ++ processed.toolResults.map toolMessage
  (∃ final, processed.history = pushed ++ [assistantMessageValue final]) ∨
    processed.history = Conversation.truncateHistory pushed config.maxHistory

theorem dispatchToolCalls_pushesResults (roundTrace : LlmRoundTrace) (calls : List RawToolCall) :
    PushesResults history config
      (dispatchToolCalls json order engine history config roundTrace calls) := by
  rw [PushesResults, dispatchToolCalls_toolResults]
  unfold dispatchToolCalls
  dsimp only
  split
  · exact .inl ⟨_, rfl⟩
  · exact .inr rfl

/-- A response with tool results pushes them behind its own message. -/
theorem processLlmResponse_pushesResults
    (results : (processLlmResponse json order chunks engine history config).toolResults ≠ []) :
    ∃ message, assemble 64 chunks = .ok message ∧
      PushesResults (history ++ [assistantMessageValue message]) config
        (processLlmResponse json order chunks engine history config) := by
  unfold processLlmResponse at results ⊢
  cases assembled : assemble 64 chunks with
  | error error =>
      rw [assembled] at results
      exact absurd rfl results
  | ok message =>
      rw [assembled] at results
      dsimp only at results ⊢
      refine ⟨message, rfl, ?_⟩
      split at results
      · exact absurd rfl results
      · rename_i hasCalls
        rw [if_neg hasCalls]
        split at results
        · exact absurd rfl results
        · rename_i inTime
          rw [if_neg inTime]
          exact dispatchToolCalls_pushesResults json order engine _ config _ _

/-- The results of a response are JSON, and every error text can be read back, if and only if what
the error texts take from the model stands for itself in a string: the parser's message about
arguments that do not parse, the name of an unknown tool, or a rejected name in the arguments.
These results are what is pushed to the history. -/
theorem tool_results_are_json_iff (readNumber : List Char → Option Number)
    (serializes : ∀ met ∈ dispatchedCalls json order chunks engine config, ∀ value,
      (Tools.runToolCall json.fromStr order met.2 met.1.function).1 = .ok value →
        ParsesTo readNumber (json.toStringPretty value) value) :
    ((∀ execution ∈ (processLlmResponse json order chunks engine history config).toolResults,
        ToolResultIsJson readNumber execution) ↔
      ∀ met ∈ dispatchedCalls json order chunks engine config,
        ∀ text ∈ embeddedText? json.fromStr met.1.function, Plain text) ∧
    ((processLlmResponse json order chunks engine history config).toolResults ≠ [] →
      ∃ message, assemble 64 chunks = .ok message ∧
        PushesResults (history ++ [assistantMessageValue message]) config
          (processLlmResponse json order chunks engine history config)) := by
  refine ⟨?_, processLlmResponse_pushesResults json order chunks engine history config⟩
  rw [processLlmResponse_toolResults, List.forall_mem_map]
  apply forall₂_congr
  intro met member
  exact toolResultIsJson_iff json readNumber order met (serializes met member)

end Response

/-- A model that calls a tool by a name with quotation marks. -/
def quotingChunks : List Value :=
  [toolCallChunk "call_1" "draft \"claim\"" "\x7b\x7d"]

/-- Every answer as text, where no answer is written. -/
def silentText : JsonText where
  fromStr _ := .ok (.object [])
  toStringPretty _ := "null"

def quotingCall : RawToolCall × ConsensusEngine :=
  (⟨"call_1", "function", ⟨"draft \"claim\"", "\x7b\x7d"⟩⟩, .new "ava")

theorem quotingChunks_dispatched :
    dispatchedCalls silentText .insertion quotingChunks (.new "ava") firstRound = [quotingCall] :=
  rfl

theorem quotingCall_unknown (value : Value) :
    (Tools.runToolCall silentText.fromStr .insertion quotingCall.2 quotingCall.1.function).1 ≠
      .ok value := by
  intro succeeded
  cases succeeded

/-- What it is told is no JSON from which the error could be read. -/
theorem quoting_not_json :
    ¬∀ (json : JsonText) (readNumber : List Char → Option Number) (order : HashOrder)
      (chunks : List Value) (engine : ConsensusEngine) (history : List Value) (config : TurnConfig),
      (∀ met ∈ dispatchedCalls json order chunks engine config, ∀ value,
        (Tools.runToolCall json.fromStr order met.2 met.1.function).1 = .ok value →
          ParsesTo readNumber (json.toStringPretty value) value) →
      ∀ execution ∈ (processLlmResponse json order chunks engine history config).toolResults,
        ToolResultIsJson readNumber execution := by
  intro allJson
  have results := allJson silentText (fun _ => none) .insertion quotingChunks (.new "ava") []
    firstRound
  rw [processLlmResponse_toolResults, quotingChunks_dispatched, List.map_singleton] at results
  have serializes : ∀ value, (Tools.runToolCall silentText.fromStr .insertion quotingCall.2
      quotingCall.1.function).1 = .ok value →
        ParsesTo (fun _ => none) (silentText.toStringPretty value) value :=
    fun value succeeded => absurd succeeded (quotingCall_unknown value)
  have isJson := results (fun met member => by
    rw [List.mem_singleton.mp member]
    exact serializes) _ (List.mem_singleton_self _)
  have plain := (toolResultIsJson_iff silentText _ .insertion quotingCall serializes).mp isJson
    "draft \"claim\"" rfl
  exact absurd plain (by decide +kernel)

/-- How the number in the answer to `clear_drafts` is read. -/
def readOne (text : List Char) : Option Number :=
  if text = ['1'] then some (.posInt 1) else none

theorem parsesTo_clearedAnswer :
    ParsesTo readOne "\x7b\n  \"cleared\": 1\n\x7d" (Tools.clearedAnswer 1) := by
  have blankStart : Json.Blank "\n  ".toList := by decide +kernel
  have key : Json.StringText "cleared".toList "cleared".toList :=
    Json.Plain.stringText (by decide +kernel)
  have blankGap : Json.Blank [' '] := by decide +kernel
  have one : Json.Reads readOne ['1'] (.number (.posInt 1)) := .number (by decide +kernel) rfl
  have blankEnd : Json.Blank ['\n'] := by decide +kernel
  have member := Json.ReadsMembers.single blankStart key Json.blank_nil blankGap one blankEnd
  exact ⟨[], _, [], Json.blank_nil, Json.blank_nil, rfl, .object member⟩

def clearingCall : RawToolCall × ConsensusEngine :=
  (⟨"call_1", "function", ⟨"clear_drafts", "\x7b\x7d"⟩⟩, draftingEngine)

theorem clearingChunks_dispatched :
    dispatchedCalls clearingText .insertion clearingChunks draftingEngine firstRound =
      [clearingCall] :=
  rfl

theorem clearingCall_result :
    (traceToolCall clearingText .insertion draftingEngine clearingCall.1).1 ∈
      (processLlmResponse clearingText .insertion clearingChunks draftingEngine []
        firstRound).toolResults := by
  rw [processLlmResponse_toolResults, clearingChunks_dispatched]
  exact List.mem_singleton_self _

/-- The answer to `clear_drafts` is JSON. -/
theorem clearing_json : ToolResultIsJson readOne
    (traceToolCall clearingText .insertion draftingEngine clearingCall.1).1 := by
  apply (tool_results_are_json_iff clearingText .insertion clearingChunks draftingEngine []
    firstRound readOne _).1.mpr _ _ clearingCall_result
  · rw [clearingChunks_dispatched]
    intro met member value answered
    rw [List.mem_singleton.mp member] at answered
    cases answered
    exact parsesTo_clearedAnswer
  · rw [clearingChunks_dispatched]
    intro met member
    rw [List.mem_singleton.mp member]
    intro text embedded
    cases embedded

end LlmTurn

end ProstheticConscience.Consensus
