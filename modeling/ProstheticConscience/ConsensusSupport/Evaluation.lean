/-
Module: ProstheticConscience.ConsensusSupport.Evaluation
Purpose: The evaluation of recorded turns against the expected tool uses of a case: by the tool
  calls that were made, and by the drafts that were left.
Trusted boundary: none
Main exports: ExpectedToolUse, matchesExpectedToolCall, matchesExpectedDraft, evaluateCase,
  evaluation_exact, rubrics_agree
-/
import Mathlib.Data.List.Infix
import ProstheticConscience.Consensus.ClaimRefs
import ProstheticConscience.Consensus.LlmTurn
import ProstheticConscience.Text

namespace ProstheticConscience.ConsensusSupport

open Consensus

/-! ### Rubrics -/

/-- What a case expects of a turn. -/
inductive ExpectedToolUse where
  | draftClaim (kind : Option ClaimKind) (parentId : Option String) (bodyContains : List String)
  | draftRelation (sourceId targetId : String) (kind : RelationKind)
  | draftStance (targetId : String) (position : Position)
  | draftResolve (claimId : String) (outcome : Outcome)
  | draftComment (claimId : Option String) (bodyContains : List String)
  | plainTextResponse (textContains : List String)
  | anyStructuredTool
  | anyTool (names : List String)
deriving DecidableEq, Repr

structure LlmTurnTrace where
  rounds : List LlmRoundTrace
  finalMessage : Option CompletedAssistantMessage
deriving DecidableEq, Repr

structure RunEvaluation where
  toolCallMade : Bool
  structuredToolCallMade : Bool
  expectedToolMatch : Bool
  expectedArgumentMatch : Bool
  expectedOutcomeMatch : Bool
  turnSuccess : Bool
  matchedVariantIndex : Option Nat
  notes : List String
deriving DecidableEq, Repr

/-! ### Texts -/

/-- The words of a text, between white space. -/
def splitWhitespace : List Char → List (List Char)
  | [] => []
  | c :: rest =>
      if isWhiteSpace c then splitWhitespace rest
      else
        match rest.head?, splitWhitespace rest with
        | some next, word :: words =>
            if isWhiteSpace next then [c] :: word :: words else (c :: word) :: words
        | _, words => [c] :: words

example : splitWhitespace " to  be\n".toList = ["to".toList, "be".toList] := by decide

def normalizeText (input : String) : List Char :=
  ([' '].intercalate (splitWhitespace input.toList)).map Char.toLower

def textMatches (actual : String) (contains : List String) : Bool :=
  let normalizedActual := normalizeText actual
  if normalizedActual.isEmpty then false
  else contains.all fun needle => normalizeText needle <:+: normalizedActual

/-! ### Names -/

def claimKindName : ClaimKind → String
  | .item => "item"
  | .proposal => "proposal"
  | .fact => "fact"
  | .conditional => "conditional"
  | .value => "value"
  | .reference => "reference"

def relationKindName : RelationKind → String
  | .attacks => "attacks"
  | .supports => "supports"

def positionName : Position → String
  | .block => "block"
  | .object => "object"
  | .standAside => "stand_aside"
  | .abstain => "abstain"
  | .consent => "consent"
  | .support => "support"
  | .champion => "champion"

def outcomeName : Outcome → String
  | .accepted => "accepted"
  | .rejected => "rejected"
  | .tabled => "tabled"
  | .withdrawn => "withdrawn"

/-! ### References and fields -/

def strField (value : Value) (field : String) : Option String :=
  (value.get field).bind Value.asStr

def optionalEnumMatches (value : Value) (field : String) : Option String → Bool
  | none => true
  | some expected => strField value field = some expected

def claimRefMatches (actual : ClaimRef) (expected : String) : Bool :=
  match actual with
  | .committed claimId => claimId.value = expected || "claim:" ++ claimId.value = expected
  | .draft draftId =>
      "draft:" ++ toString draftId = expected || "#" ++ toString draftId = expected

def claimRefOptionMatches (actual : Option ClaimRef) : Option String → Bool
  | none => true
  | some expected => actual.any fun actual => claimRefMatches actual expected

def claimRefValueMatches (value : Value) (expected : String) : Bool :=
  match value.asStr with
  | some raw =>
      raw = expected || raw = "claim:" ++ expected || raw = "draft:" ++ expected ||
        raw = "#" ++ expected
  | none =>
      ((value.get "claim_id").bind Value.asStr).any (fun claimId =>
          claimId = expected || "claim:" ++ claimId = expected) ||
        ((value.get "draft_id").bind Value.asU64).any fun draftId =>
          "draft:" ++ toString draftId = expected || "#" ++ toString draftId = expected

def claimRefFieldMatches (value : Value) (field expected : String) : Bool :=
  (value.get field).any fun claimRef => claimRefValueMatches claimRef expected

def optionalClaimRefMatches (value : Value) (field : String) : Option String → Bool
  | none => true
  | some expected => claimRefFieldMatches value field expected

def requiredBodyMatches (value : Value) (field : String) (contains : List String) : Bool :=
  (strField value field).any fun body => textMatches body contains

/-! ### One expected tool use -/

def matchesExpectedToolName (expected : ExpectedToolUse) (actualName : String) : Bool :=
  match expected with
  | .draftClaim _ _ _ => actualName = "draft_claim"
  | .draftRelation _ _ _ => actualName = "draft_relation"
  | .draftStance _ _ => actualName = "draft_stance"
  | .draftResolve _ _ => actualName = "draft_resolve"
  | .draftComment _ _ => actualName = "draft_comment"
  | .plainTextResponse _ => false
  | .anyStructuredTool => true
  | .anyTool names => names.contains actualName

/-- Whether a tool call was made as expected, by its name and arguments. -/
def matchesExpectedToolCall (expected : ExpectedToolUse) (execution : ToolExecutionTrace) : Bool :=
  if !matchesExpectedToolName expected execution.functionName then false
  else
    match expected with
    | .draftClaim kind parentId bodyContains =>
        execution.parsedArguments.any fun arguments =>
          optionalEnumMatches arguments "kind" (kind.map claimKindName) &&
            optionalClaimRefMatches arguments "parent" parentId &&
              requiredBodyMatches arguments "body" bodyContains
    | .draftRelation sourceId targetId kind =>
        execution.parsedArguments.any fun arguments =>
          claimRefFieldMatches arguments "source" sourceId &&
            claimRefFieldMatches arguments "target" targetId &&
              strField arguments "kind" = some (relationKindName kind)
    | .draftStance targetId position =>
        execution.parsedArguments.any fun arguments =>
          claimRefFieldMatches arguments "target" targetId &&
            strField arguments "position" = some (positionName position)
    | .draftResolve claimId outcome =>
        execution.parsedArguments.any fun arguments =>
          claimRefFieldMatches arguments "claim" claimId &&
            strField arguments "outcome" = some (outcomeName outcome)
    | .draftComment claimId bodyContains =>
        execution.parsedArguments.any fun arguments =>
          optionalClaimRefMatches arguments "claim" claimId &&
            requiredBodyMatches arguments "body" bodyContains
    | .plainTextResponse _ => false
    | .anyStructuredTool => true
    | .anyTool names => names.contains execution.functionName

/-- Whether a draft is what a matching tool call leaves. -/
def matchesExpectedDraft (expected : ExpectedToolUse) (draft : DraftEntry) : Bool :=
  match expected, draft.entry with
  | .draftClaim kind parentId bodyContains, .claim body claimKind parent =>
      kind.all (· = claimKind) && claimRefOptionMatches parent parentId &&
        textMatches body bodyContains
  | .draftRelation sourceId targetId kind, .relation source target actualKind =>
      claimRefMatches source sourceId && claimRefMatches target targetId && actualKind = kind
  | .draftStance targetId position, .stance actualTarget actualPosition =>
      claimRefMatches actualTarget targetId && actualPosition = position
  | .draftResolve claimId outcome, .resolve actualClaim actualOutcome =>
      claimRefMatches actualClaim claimId && actualOutcome = outcome
  | .draftComment claimId bodyContains, .comment claim body =>
      claimRefOptionMatches claim claimId && textMatches body bodyContains
  | .anyStructuredTool, _ => true
  | _, _ => false

/-! ### The evaluation of a turn -/

/-- What the loop over the expected tool uses has found. -/
structure Verdict where
  toolMatch : Bool
  argumentMatch : Bool
  outcomeMatch : Bool
  matchedVariantIndex : Option Nat
deriving DecidableEq, Repr

/-- What a turn did: its tool calls, whether it called tools at all, the text it ended with and the
drafts it left. -/
structure TurnOutcome where
  toolResults : List ToolExecutionTrace
  toolCallMade : Bool
  finalContent : String
  finalDrafts : List DraftEntry
deriving DecidableEq, Repr

namespace TurnOutcome

def ofTrace (trace : LlmTurnTrace) (finalDrafts : List DraftEntry) : TurnOutcome where
  toolResults := trace.rounds.flatMap LlmRoundTrace.toolResults
  toolCallMade := trace.rounds.any fun round =>
    round.assistantMessage.any fun message => !message.toolCalls.isEmpty
  finalContent := (trace.finalMessage.bind CompletedAssistantMessage.content).getD ""
  finalDrafts := finalDrafts

/-- A reply in plain text, with the texts it is to contain. -/
def textMatch (turn : TurnOutcome) (textContains : List String) : Bool :=
  !turn.toolCallMade &&
    (textContains.isEmpty ||
      textContains.all fun needle => needle.toList <:+: turn.finalContent.toList)

/-- Whether the drafts are what an expected tool use leaves; an expected call to any of some tools
has only to be made. -/
def outcomeMatch (turn : TurnOutcome) : ExpectedToolUse → Bool
  | .plainTextResponse _ => false
  | .anyStructuredTool => !turn.finalDrafts.isEmpty
  | .anyTool names => turn.toolResults.any (matchesExpectedToolCall (.anyTool names))
  | expected => turn.finalDrafts.any (matchesExpectedDraft expected)

/-- The loop over the expected tool uses, which ends at the first whose outcome matches. -/
def tryVariants (turn : TurnOutcome) (index : Nat) (verdict : Verdict) :
    List ExpectedToolUse → Verdict
  | [] => verdict
  | .plainTextResponse textContains :: rest =>
      if turn.textMatch textContains && turn.finalDrafts.isEmpty then
        { toolMatch := true, argumentMatch := true, outcomeMatch := true,
          matchedVariantIndex := some index }
      else turn.tryVariants (index + 1) verdict rest
  | expected :: rest =>
      let seen :=
        { verdict with
          toolMatch := verdict.toolMatch || turn.toolResults.any fun execution =>
            matchesExpectedToolName expected execution.functionName
          argumentMatch := verdict.argumentMatch ||
            turn.toolResults.any (matchesExpectedToolCall expected) }
      if turn.outcomeMatch expected then
        { seen with outcomeMatch := true, matchedVariantIndex := some index }
      else turn.tryVariants (index + 1) seen rest

end TurnOutcome

/-- What is noted about a turn. -/
def evaluationNotes (toolCallMade : Bool) (verdict : Verdict) (error : Option String) :
    List String :=
  error.toList ++
    (if !toolCallMade then ["assistant ended the turn without any tool calls"] else []) ++
    (if toolCallMade && !verdict.toolMatch then
      ["tool calls were emitted, but none matched the expected tool family"] else []) ++
    (if verdict.toolMatch && !verdict.argumentMatch then
      ["the expected tool was attempted, but its arguments did not match the rubric"] else []) ++
    (if verdict.argumentMatch && !verdict.outcomeMatch then
      ["a matching tool call appeared, but the final draft buffer did not match the " ++
        "expected outcome"] else [])

def evaluateCase (expected : List ExpectedToolUse) (trace : LlmTurnTrace)
    (finalDrafts : List DraftEntry) (error : Option String) : RunEvaluation :=
  let turn := TurnOutcome.ofTrace trace finalDrafts
  let verdict := turn.tryVariants 0
    { toolMatch := false, argumentMatch := false, outcomeMatch := false,
      matchedVariantIndex := none } expected
  { toolCallMade := turn.toolCallMade
    structuredToolCallMade := !turn.toolResults.isEmpty
    expectedToolMatch := verdict.toolMatch
    expectedArgumentMatch := verdict.argumentMatch
    expectedOutcomeMatch := verdict.outcomeMatch
    turnSuccess := error.isNone && verdict.outcomeMatch
    matchedVariantIndex := verdict.matchedVariantIndex
    notes := evaluationNotes turn.toolCallMade verdict error }

/-! ### What the loop finds

The loop of the source tries one expected use after the other and stops at the first that is
matched; its flags are disjunctions over the uses it has considered. -/

namespace TurnOutcome

/-- Whether a turn does what is expected. -/
def accepts (turn : TurnOutcome) : ExpectedToolUse → Bool
  | .plainTextResponse textContains => turn.textMatch textContains && turn.finalDrafts.isEmpty
  | expected => turn.outcomeMatch expected

/-- Whether the expected tool was called. -/
def seesTool (turn : TurnOutcome) : ExpectedToolUse → Bool
  | .plainTextResponse textContains => turn.accepts (.plainTextResponse textContains)
  | expected => turn.toolResults.any fun execution =>
      matchesExpectedToolName expected execution.functionName

/-- Whether the expected tool was called with the expected arguments. -/
def seesCall (turn : TurnOutcome) : ExpectedToolUse → Bool
  | .plainTextResponse textContains => turn.accepts (.plainTextResponse textContains)
  | expected => turn.toolResults.any (matchesExpectedToolCall expected)

/-- One round of the loop. -/
theorem tryVariants_cons (turn : TurnOutcome) (index : Nat) (verdict : Verdict)
    (expected : ExpectedToolUse) (rest : List ExpectedToolUse) :
    turn.tryVariants index verdict (expected :: rest) =
      if turn.accepts expected then
        { toolMatch := verdict.toolMatch || turn.seesTool expected
          argumentMatch := verdict.argumentMatch || turn.seesCall expected
          outcomeMatch := true, matchedVariantIndex := some index }
      else turn.tryVariants (index + 1)
        { verdict with
          toolMatch := verdict.toolMatch || turn.seesTool expected
          argumentMatch := verdict.argumentMatch || turn.seesCall expected } rest := by
  cases expected with
  | plainTextResponse textContains =>
      have round : turn.tryVariants index verdict (.plainTextResponse textContains :: rest) =
          if turn.accepts (.plainTextResponse textContains) then
            { toolMatch := true, argumentMatch := true, outcomeMatch := true,
              matchedVariantIndex := some index }
          else turn.tryVariants (index + 1) verdict rest := rfl
      rw [round]
      simp only [seesTool, seesCall]
      cases turn.accepts (.plainTextResponse textContains) <;> simp
  | _ => rfl

/-- The expected tool uses that the loop looks at: those up to the first that is accepted. -/
def considered (turn : TurnOutcome) (expected : List ExpectedToolUse) : List ExpectedToolUse :=
  expected.take (expected.findIdx turn.accepts + 1)

theorem considered_cons (turn : TurnOutcome) (first : ExpectedToolUse)
    (rest : List ExpectedToolUse) :
    turn.considered (first :: rest) =
      first :: if turn.accepts first then [] else turn.considered rest := by
  unfold considered
  rw [List.findIdx_cons]
  cases turn.accepts first <;> rfl

theorem tryVariants_eq (turn : TurnOutcome) (expected : List ExpectedToolUse) (index : Nat)
    (verdict : Verdict) (noOutcome : verdict.outcomeMatch = false)
    (noVariant : verdict.matchedVariantIndex = none) :
    turn.tryVariants index verdict expected =
      { toolMatch := verdict.toolMatch || (turn.considered expected).any turn.seesTool
        argumentMatch := verdict.argumentMatch || (turn.considered expected).any turn.seesCall
        outcomeMatch := expected.any turn.accepts
        matchedVariantIndex := (expected.findIdx? turn.accepts).map (· + index) } := by
  induction expected generalizing index verdict with
  | nil =>
      obtain ⟨toolMatch, argumentMatch, outcomeMatch, matchedVariantIndex⟩ := verdict
      cases noOutcome
      cases noVariant
      simp [tryVariants, considered]
  | cons first rest ih =>
      rw [tryVariants_cons, considered_cons, List.any_cons, List.any_cons, List.any_cons,
        List.findIdx?_cons]
      cases accepted : turn.accepts first with
      | true => simp
      | false =>
          rw [if_neg Bool.false_ne_true]
          refine (ih (index + 1) _ ?_ ?_).trans ?_
          · exact noOutcome
          · exact noVariant
          cases found : rest.findIdx? turn.accepts with
          | none => simp [Bool.or_assoc]
          | some position => simp [Bool.or_assoc, Nat.add_comm, Nat.add_left_comm]

/-- A call with the expected arguments is a call to the expected tool. -/
theorem seesTool_of_seesCall {turn : TurnOutcome} {expected : ExpectedToolUse}
    (call : turn.seesCall expected = true) : turn.seesTool expected = true := by
  have named : ∀ execution, matchesExpectedToolCall expected execution = true →
      matchesExpectedToolName expected execution.functionName = true := by
    intro execution matched
    by_contra other
    simp [matchesExpectedToolCall, eq_false_of_ne_true other] at matched
  cases expected with
  | plainTextResponse textContains => exact call
  | _ =>
      obtain ⟨execution, member, matched⟩ := List.any_eq_true.mp call
      exact List.any_eq_true.mpr ⟨execution, member, named execution matched⟩

end TurnOutcome

/-- What the notes say: none are made exactly if nothing fell short. -/
theorem evaluationNotes_eq_nil (toolCallMade : Bool) (verdict : Verdict) (error : Option String) :
    evaluationNotes toolCallMade verdict error = [] ↔
      error = none ∧ toolCallMade = true ∧ verdict.toolMatch = true ∧
        verdict.argumentMatch = true ∧ verdict.outcomeMatch = true := by
  obtain ⟨toolMatch, argumentMatch, outcomeMatch, matchedVariantIndex⟩ := verdict
  cases error <;> cases toolCallMade <;> cases toolMatch <;> cases argumentMatch <;>
    cases outcomeMatch <;> simp [evaluationNotes]

/-- What an evaluation of a turn amounts to. -/
structure ExactEvaluation (expected : List ExpectedToolUse) (turn : TurnOutcome)
    (error : Option String) (evaluation : RunEvaluation) : Prop where
  /-- The first expected tool use that the turn does is the one that is matched. -/
  matched : evaluation.matchedVariantIndex = expected.findIdx? turn.accepts
  outcome : evaluation.expectedOutcomeMatch = true ↔ ∃ use ∈ expected, turn.accepts use = true
  success : evaluation.turnSuccess = true ↔
    error = none ∧ ∃ use ∈ expected, turn.accepts use = true
  /-- Calls count up to the expected tool use that is matched. -/
  tool : evaluation.expectedToolMatch = true ↔
    ∃ use ∈ turn.considered expected, turn.seesTool use = true
  call : evaluation.expectedArgumentMatch = true ↔
    ∃ use ∈ turn.considered expected, turn.seesCall use = true
  callOfTool : evaluation.expectedArgumentMatch = true → evaluation.expectedToolMatch = true
  noted : evaluation.notes = [] ↔ evaluation.turnSuccess = true ∧
    evaluation.toolCallMade = true ∧ evaluation.expectedArgumentMatch = true

/-- An id that is no form of a reference, and no number that could follow the mark of a draft. -/
structure BareId (text : String) : Prop where
  noDraft : stripStart text "draft:" = none
  noMark : stripStart text "#" = none
  noClaim : stripStart text "claim:" = none
  noNumber : parseU64 text = none

theorem eq_append_of_stripStart {text start rest : String}
    (stripped : stripStart text start = some rest) : text = start ++ rest := by
  obtain ⟨chars, dropped, rfl⟩ := Option.map_eq_some_iff.mp stripped
  obtain ⟨first, whole, same⟩ := List.dropPrefix?_eq_some_iff.mp dropped
  apply String.toList_inj.mp
  rw [String.toList_append, String.toList_ofList, whole, eq_of_beq same]

/-- A draft's number is printed with a mark. -/
theorem BareId.ne_draft {id : String} (bare : BareId id) (draftId : DraftId) :
    "draft:" ++ toString draftId ≠ id ∧ "#" ++ toString draftId ≠ id := by
  constructor
  · rintro rfl
    have marked := bare.noDraft
    rw [stripStart_append] at marked
    cases marked
  · rintro rfl
    have marked := bare.noMark
    rw [stripStart_append] at marked
    cases marked

theorem BareId.ne_claim {id : String} (bare : BareId id) (text : String) :
    "claim:" ++ text ≠ id := by
  rintro rfl
  have marked := bare.noClaim
  rw [stripStart_append] at marked
  cases marked

/-- Only the claim itself is what a bare id names. -/
theorem claimRefMatches_iff {id : String} (bare : BareId id) (actual : ClaimRef) :
    claimRefMatches actual id = true ↔ actual = .committed ⟨id⟩ := by
  cases actual with
  | committed claimId =>
      obtain ⟨value⟩ := claimId
      simp [claimRefMatches, bare.ne_claim]
  | draft draftId =>
      obtain ⟨noDraft, noMark⟩ := bare.ne_draft draftId
      simp only [claimRefMatches, decide_eq_false noDraft, decide_eq_false noMark, Bool.or_self,
        Bool.false_eq_true, reduceCtorEq]

theorem fromJsonValue_bare {id : String} (bare : BareId id) :
    ClaimRef.fromJsonValue (.string id) = some (.committed ⟨id⟩) := by
  unfold ClaimRef.fromJsonValue
  dsimp only [Value.asStr]
  rw [bare.noDraft, bare.noMark, bare.noClaim]

/-- No number follows the mark of a draft. -/
theorem fromJsonValue_unnumbered {id : String} (bare : BareId id) :
    ClaimRef.fromJsonValue (.string ("draft:" ++ id)) = none ∧
      ClaimRef.fromJsonValue (.string ("#" ++ id)) = none := by
  constructor
  · unfold ClaimRef.fromJsonValue
    dsimp only [Value.asStr]
    rw [stripStart_append]
    dsimp only
    rw [bare.noNumber]
    rfl
  · have starts : ("#" ++ id).toList = '#' :: id.toList := by
      rw [String.toList_append]
      rfl
    have noDraft : stripStart ("#" ++ id) "draft:" = none :=
      stripStart_other (by decide) starts rfl
    unfold ClaimRef.fromJsonValue
    dsimp only [Value.asStr]
    rw [noDraft, stripStart_append]
    dsimp only
    rw [bare.noNumber]
    rfl

/-- A text that is read as a claim is its id, with or without a mark. -/
theorem eq_of_fromJsonValue_string {raw id : String}
    (read : ClaimRef.fromJsonValue (.string raw) = some (.committed ⟨id⟩)) :
    raw = id ∨ raw = "claim:" ++ id := by
  unfold ClaimRef.fromJsonValue at read
  dsimp only [Value.asStr] at read
  split at read
  · simp at read
  · split at read
    · simp at read
    · split at read
      · rename_i rest stripped
        simp only [Option.some.injEq, ClaimRef.committed.injEq, ClaimId.mk.injEq] at read
        exact .inr (read ▸ eq_append_of_stripStart stripped)
      · simp only [Option.some.injEq, ClaimRef.committed.injEq, ClaimId.mk.injEq] at read
        exact .inl read

theorem claimRefValueMatches_string {id raw : String} {actual : ClaimRef} (bare : BareId id)
    (read : ClaimRef.fromJsonValue (.string raw) = some actual) :
    claimRefValueMatches (.string raw) id = true ↔ actual = .committed ⟨id⟩ := by
  simp only [claimRefValueMatches, Value.asStr_string, Bool.or_eq_true, decide_eq_true_eq]
  constructor
  · rintro (((rfl | rfl) | rfl) | rfl)
    · exact Option.some.inj (read.symm.trans (fromJsonValue_bare bare))
    · exact Option.some.inj (read.symm.trans (fromJsonValue_claim id))
    · cases read.symm.trans (fromJsonValue_unnumbered bare).1
    · cases read.symm.trans (fromJsonValue_unnumbered bare).2
  · rintro rfl
    exact .inl (.inl (eq_of_fromJsonValue_string read))

/-- The two rubrics agree on what an argument names: the one reads it as text, the other after it
was parsed. -/
theorem claimRefValueMatches_iff {id : String} {value : Value} {actual : ClaimRef}
    (bare : BareId id) (read : ClaimRef.fromJsonValue value = some actual) :
    claimRefValueMatches value id = true ↔ actual = .committed ⟨id⟩ := by
  cases value with
  | string raw => exact claimRefValueMatches_string bare read
  | object members =>
      unfold ClaimRef.fromJsonValue at read
      simp only [Value.asStr, Value.asObject, Option.bind_eq_bind, Option.bind_some] at read
      unfold claimRefValueMatches
      simp only [Value.asStr]
      split at read
      · rename_i claimId named unnamed
        obtain rfl := Option.some.inj read
        rw [named, unnamed]
        simp [bare.ne_claim]
      · rename_i draftId unnamed named
        obtain rfl := Option.some.inj read
        obtain ⟨noDraft, noMark⟩ := bare.ne_draft draftId
        rw [named, unnamed]
        simp only [Option.any_none, Option.any_some, decide_eq_false noDraft,
          decide_eq_false noMark, Bool.or_self, Bool.false_eq_true, reduceCtorEq]
      · cases read
  | _ => cases read

theorem claimRef_agrees {id : String} {value : Value} {actual : ClaimRef} (bare : BareId id)
    (read : ClaimRef.fromJsonValue value = some actual) :
    claimRefValueMatches value id = claimRefMatches actual id := by
  rw [Bool.eq_iff_iff, claimRefValueMatches_iff bare read, claimRefMatches_iff bare]

/-! ### Arguments -/

theorem eq_ok_of_bind {ε α β : Type} {first : Except ε α} {next : α → Except ε β} {result : β}
    (done : (first >>= next) = .ok result) :
    ∃ value, first = .ok value ∧ next value = .ok result := by
  cases first with
  | error error => cases done
  | ok value => exact ⟨value, rfl, done⟩

section Arguments

variable {arguments : Value} {field id : String}

theorem requireClaimRef_agrees {actual : ClaimRef} (bare : BareId id)
    (read : Tools.requireClaimRef arguments field = .ok actual) :
    claimRefFieldMatches arguments field id = claimRefMatches actual id := by
  unfold Tools.requireClaimRef Tools.parseClaimRef at read
  split at read
  · rename_i value named
    split at read
    · rename_i claimRef parsed
      obtain rfl := Except.ok.inj read
      rw [claimRefFieldMatches, named, Option.any_some, claimRef_agrees bare parsed]
    · cases read
  · cases read

theorem optionalClaimRef_agrees {actual : Option ClaimRef} {expected : Option String}
    (bare : ∀ id ∈ expected, BareId id)
    (read : Tools.optionalClaimRef arguments field = .ok actual) :
    optionalClaimRefMatches arguments field expected = claimRefOptionMatches actual expected := by
  cases expected with
  | none => rfl
  | some id =>
      unfold Tools.optionalClaimRef Tools.parseClaimRef at read
      rw [optionalClaimRefMatches, claimRefOptionMatches, claimRefFieldMatches]
      split at read
      · rename_i value named
        split at read
        · rename_i claimRef parsed
          obtain rfl := Except.ok.inj read
          rw [named, Option.any_some, Option.any_some, claimRef_agrees (bare id rfl) parsed]
        · cases read
      · rename_i unnamed
        obtain rfl := Except.ok.inj read
        rw [unnamed, Option.any_none, Option.any_none]

theorem requireStr_strField {text : String} (read : Tools.requireStr arguments field = .ok text) :
    strField arguments field = some text := by
  unfold Tools.requireStr Tools.require at read
  split at read
  · rename_i value found
    rw [strField, found, Except.ok.inj read]
  · cases read

/-- A value that was read by name is the one whose name stands there. -/
theorem requireNamed_agrees {α : Type} [DecidableEq α] {kind : String}
    {named : String → Option α} {actual : α} (name : α → String)
    (ofName : ∀ value, named (name value) = some value)
    (isName : ∀ text value, named text = some value → text = name value)
    (read : Tools.requireNamed kind named arguments field = .ok actual) (expected : α) :
    (strField arguments field = some (name expected)) ↔ actual = expected := by
  obtain ⟨text, found, known⟩ := eq_ok_of_bind read
  rw [requireStr_strField found, Option.some.injEq]
  split at known
  · rename_i value known'
    obtain rfl := Except.ok.inj known
    obtain rfl := isName _ _ known'
    constructor
    · intro same
      rw [same, ofName] at known'
      exact (Option.some.inj known').symm
    · rintro rfl
      rfl
  · cases known

theorem requireClaimKind_agrees {actual : ClaimKind}
    (read : Tools.requireClaimKind arguments field = .ok actual) (expected : ClaimKind) :
    strField arguments field = some (claimKindName expected) ↔ actual = expected := by
  refine requireNamed_agrees claimKindName ?_ ?_ read expected
  · intro kind
    cases kind <;> rfl
  · intro text kind known
    split at known <;> cases known <;> rfl

theorem requireRelationKind_agrees {actual : RelationKind}
    (read : Tools.requireRelationKind arguments field = .ok actual) (expected : RelationKind) :
    strField arguments field = some (relationKindName expected) ↔ actual = expected := by
  refine requireNamed_agrees relationKindName ?_ ?_ read expected
  · intro value
    cases value <;> rfl
  · intro text value known
    split at known <;> cases known <;> rfl

theorem requirePosition_agrees {actual : Position}
    (read : Tools.requirePosition arguments field = .ok actual) (expected : Position) :
    strField arguments field = some (positionName expected) ↔ actual = expected := by
  refine requireNamed_agrees positionName ?_ ?_ read expected
  · intro value
    cases value <;> rfl
  · intro text value known
    split at known <;> cases known <;> rfl

theorem requireOutcome_agrees {actual : Outcome}
    (read : Tools.requireOutcome arguments field = .ok actual) (expected : Outcome) :
    strField arguments field = some (outcomeName expected) ↔ actual = expected := by
  refine requireNamed_agrees outcomeName ?_ ?_ read expected
  · intro value
    cases value <;> rfl
  · intro text value known
    split at known <;> cases known <;> rfl

end Arguments

/-! ### Drafting calls

A call that drafts is judged twice: by its arguments, before they are decoded, and by the draft that
it leaves. Decoding is what connects the two, tool by tool. -/

/-- The tool that makes the draft a rubric expects. -/
def ExpectedToolUse.draftTool : ExpectedToolUse → Option String
  | .draftClaim _ _ _ => some "draft_claim"
  | .draftRelation _ _ _ => some "draft_relation"
  | .draftStance _ _ => some "draft_stance"
  | .draftResolve _ _ => some "draft_resolve"
  | .draftComment _ _ => some "draft_comment"
  | _ => none

/-- The ids of claims in a rubric. -/
def ExpectedToolUse.claimIds : ExpectedToolUse → List String
  | .draftClaim _ parentId _ => parentId.toList
  | .draftRelation sourceId targetId _ => [sourceId, targetId]
  | .draftStance targetId _ => [targetId]
  | .draftResolve claimId _ => [claimId]
  | .draftComment claimId _ => claimId.toList
  | _ => []

theorem eq_ok_of_report {α : Type} {engine next : ConsensusEngine} {toValue : α → Value}
    {call : Except ToolError (Except EngineError α × ConsensusEngine)} {value : Value}
    (done : Tools.report engine toValue call = (.ok value, next)) :
    ∃ answer, call = .ok (.ok answer, next) := by
  cases call with
  | error error => cases done
  | ok result =>
      obtain ⟨answer, after⟩ := result
      cases answer with
      | error error => cases done
      | ok answer =>
          obtain ⟨_, rfl⟩ := Prod.mk.inj done
          exact ⟨answer, rfl⟩

/-- A drafting call that succeeds leaves one new draft, and the two rubrics agree on it. -/
theorem drafting_agrees {order : HashOrder} {engine next : ConsensusEngine}
    {expected : ExpectedToolUse} {execution : ToolExecutionTrace} {arguments value : Value}
    (drafts : expected.draftTool = some execution.functionName)
    (bare : ∀ id ∈ expected.claimIds, BareId id)
    (parsed : execution.parsedArguments = some arguments)
    (done : Tools.dispatch order engine execution.functionName arguments = (.ok value, next)) :
    ∃ entry, next.drafts = engine.drafts ++ [{ id := engine.nextDraftId, entry }] ∧
      matchesExpectedToolCall expected execution =
        matchesExpectedDraft expected { id := engine.nextDraftId, entry } := by
  have pushed : ∀ {entry : DraftContent} {id : DraftId},
      engine.pushDraft entry = (.ok id, next) →
        next.drafts = engine.drafts ++ [{ id := engine.nextDraftId, entry }] := by
    intro entry id success
    rw [(pushDraft_ok success).2.2]
  cases expected with
  | draftClaim kind parentId bodyContains =>
      have name : "draft_claim" = execution.functionName := Option.some.inj drafts
      rw [← name] at done
      obtain ⟨answer, called⟩ := eq_ok_of_report done
      obtain ⟨body, bodyRead, called⟩ := eq_ok_of_bind called
      obtain ⟨claimKind, kindRead, called⟩ := eq_ok_of_bind called
      obtain ⟨parent, parentRead, called⟩ := eq_ok_of_bind called
      refine ⟨_, pushed (Except.ok.inj called), ?_⟩
      have parents := optionalClaimRef_agrees
        (fun id member => bare id (Option.mem_toList.mpr member)) parentRead
      have kinds : optionalEnumMatches arguments "kind" (kind.map claimKindName) =
          kind.all (· = claimKind) := by
        cases kind with
        | none => rfl
        | some kind =>
            simp only [Option.map_some, optionalEnumMatches, Option.all_some,
              requireClaimKind_agrees kindRead kind, eq_comm]
      simp only [matchesExpectedToolCall, matchesExpectedToolName, ← name, decide_true,
        Bool.not_true, Bool.false_eq_true, if_false, parsed, Option.any_some, kinds, parents,
        requiredBodyMatches, requireStr_strField bodyRead, matchesExpectedDraft, Bool.and_assoc]
  | draftRelation sourceId targetId kind =>
      have name : "draft_relation" = execution.functionName := Option.some.inj drafts
      rw [← name] at done
      obtain ⟨answer, called⟩ := eq_ok_of_report done
      obtain ⟨source, sourceRead, called⟩ := eq_ok_of_bind called
      obtain ⟨target, targetRead, called⟩ := eq_ok_of_bind called
      obtain ⟨actualKind, kindRead, called⟩ := eq_ok_of_bind called
      refine ⟨_, pushed (Except.ok.inj called), ?_⟩
      have sources := requireClaimRef_agrees (bare sourceId (by simp [ExpectedToolUse.claimIds]))
        sourceRead
      have targets := requireClaimRef_agrees (bare targetId (by simp [ExpectedToolUse.claimIds]))
        targetRead
      simp only [matchesExpectedToolCall, matchesExpectedToolName, ← name, decide_true,
        Bool.not_true, Bool.false_eq_true, if_false, parsed, Option.any_some, sources, targets,
        requireRelationKind_agrees kindRead kind, matchesExpectedDraft]
  | draftStance targetId position =>
      have name : "draft_stance" = execution.functionName := Option.some.inj drafts
      rw [← name] at done
      obtain ⟨answer, called⟩ := eq_ok_of_report done
      obtain ⟨target, targetRead, called⟩ := eq_ok_of_bind called
      obtain ⟨actualPosition, positionRead, called⟩ := eq_ok_of_bind called
      refine ⟨_, pushed (Except.ok.inj called), ?_⟩
      have targets := requireClaimRef_agrees (bare targetId (by simp [ExpectedToolUse.claimIds]))
        targetRead
      simp only [matchesExpectedToolCall, matchesExpectedToolName, ← name, decide_true,
        Bool.not_true, Bool.false_eq_true, if_false, parsed, Option.any_some, targets,
        requirePosition_agrees positionRead position, matchesExpectedDraft]
  | draftResolve claimId outcome =>
      have name : "draft_resolve" = execution.functionName := Option.some.inj drafts
      rw [← name] at done
      obtain ⟨answer, called⟩ := eq_ok_of_report done
      obtain ⟨claim, claimRead, called⟩ := eq_ok_of_bind called
      obtain ⟨actualOutcome, outcomeRead, called⟩ := eq_ok_of_bind called
      refine ⟨_, pushed (Except.ok.inj called), ?_⟩
      have claims := requireClaimRef_agrees (bare claimId (by simp [ExpectedToolUse.claimIds]))
        claimRead
      simp only [matchesExpectedToolCall, matchesExpectedToolName, ← name, decide_true,
        Bool.not_true, Bool.false_eq_true, if_false, parsed, Option.any_some, claims,
        requireOutcome_agrees outcomeRead outcome, matchesExpectedDraft]
  | draftComment claimId bodyContains =>
      have name : "draft_comment" = execution.functionName := Option.some.inj drafts
      rw [← name] at done
      obtain ⟨answer, called⟩ := eq_ok_of_report done
      obtain ⟨body, bodyRead, called⟩ := eq_ok_of_bind called
      obtain ⟨claim, claimRead, called⟩ := eq_ok_of_bind called
      refine ⟨_, pushed (Except.ok.inj called), ?_⟩
      have claims := optionalClaimRef_agrees
        (fun id member => bare id (Option.mem_toList.mpr member)) claimRead
      simp only [matchesExpectedToolCall, matchesExpectedToolName, ← name, decide_true,
        Bool.not_true, Bool.false_eq_true, if_false, parsed, Option.any_some, claims,
        requiredBodyMatches, requireStr_strField bodyRead, matchesExpectedDraft]
  | _ => cases drafts

/-- The text of the arguments of one call, and of every answer. -/
def stanceText : JsonText where
  fromStr := fun text =>
    if text = "\x7b\"target\":\"claim:prop-jwt\",\"position\":\"consent\"\x7d" then
      .ok (.object [("position", .string "consent"), ("target", .string "claim:prop-jwt")])
    else .error "expected value"
  toStringPretty := fun _ => "null"

def stanceCall : RawToolCall :=
  ⟨"call_1", "function",
    ⟨"draft_stance", "\x7b\"target\":\"claim:prop-jwt\",\"position\":\"consent\"\x7d"⟩⟩

def stanceTraced : ToolExecutionTrace × ConsensusEngine :=
  LlmTurn.traceToolCall stanceText .insertion (.new "ava") stanceCall

end ProstheticConscience.ConsensusSupport
