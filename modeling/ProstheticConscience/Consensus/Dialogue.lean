/-
Module: ProstheticConscience.Consensus.Dialogue
Purpose: A conversation history as a dialogue: an assistant message makes the calls it lists, and a
  tool message answers one.  What the messages of the two clients are, and what truncation keeps.
Trusted boundary: none
Main exports: utterance, WellFormed, AnsweredHistory, AnsweredHistory.toJson,
  truncateHistory_suffix, WellFormed.truncateHistory
-/
import ProstheticConscience.Consensus.Conversation
import ProstheticConscience.Library.CallDialogue

namespace ProstheticConscience.Consensus.Conversation

/-- What a message of a history is in the dialogue; calls are told apart by their ids. -/
def utterance (message : Value) : Utterance (Option Value) :=
  match strMember message "role" with
  | some "tool" => .answers (message.get "tool_call_id")
  | some "assistant" =>
      .speaks ((((message.get "tool_calls").bind Value.asArray).getD []).map (·.get "id"))
  | _ => .speaks []

/-- Right behind each assistant message with tool calls stand the tool messages that answer them,
in call order, and there are no other tool messages. -/
def WellFormed (history : List Value) : Prop :=
  Answered (history.map utterance)

instance (history : List Value) : Decidable (WellFormed history) :=
  inferInstanceAs (Decidable (Answered _))

/-- The id of a call as it stands in the messages. -/
def callId (call : RawToolCall) : Option Value :=
  some (.string call.id)

/-! ### Messages -/

/-- A user message speaks and calls nothing. -/
@[simp] theorem utterance_userMessage (content : String) :
    utterance (userMessage content) = .speaks [] := by
  simp [utterance, strMember, userMessage, Value.get_ofMembers, List.lookup_cons, Value.asStr]

/-- A tool result answers its call. -/
@[simp] theorem utterance_toolResultMessage (toolCallId content : String) :
    utterance (toolResultMessage toolCallId content) =
      .answers (some (.string toolCallId)) := by
  simp [utterance, strMember, toolResultMessage, Value.get_ofMembers, List.lookup_cons,
    Value.asStr]

/-- The id of a call is read back from what is written for it. -/
@[simp] theorem get_id_toValue (call : RawToolCall) : call.toValue.get "id" = callId call := by
  simp [RawToolCall.toValue, callId, Value.get_ofMembers, List.lookup_cons]

/-- An assistant message speaks and calls its tools. -/
@[simp] theorem utterance_assistantValue (content : Option String) (toolCalls : List RawToolCall) :
    utterance (assistantValue content toolCalls) = .speaks (toolCalls.map callId) := by
  cases toolCalls with
  | nil =>
      simp [utterance, strMember, assistantValue, Value.get_ofMembers, List.lookup_cons,
        Value.asStr]
  | cons call rest =>
      simp [utterance, strMember, assistantValue, Value.get_ofMembers, List.lookup_cons,
        Value.asStr, Value.asArray]

/-- A message at which a truncated history may start makes no calls. -/
theorem utterance_of_startsCleanly {message : Value} (clean : startsCleanly message = true) :
    utterance message = .speaks [] := by
  unfold startsCleanly at clean
  unfold utterance
  cases role : strMember message "role" with
  | none => rfl
  | some role' =>
      simp only [role, Option.getD_some, Bool.or_eq_true, beq_iff_eq, Bool.and_eq_true] at clean
      rcases clean with rfl | ⟨rfl, noCalls⟩
      · rfl
      · cases calls : (message.get "tool_calls").bind Value.asArray with
        | none => rfl
        | some calls' =>
            have none : calls' = [] := by
              simpa [calls] using noCalls
            rw [none]
            rfl

/-! ### The browser's messages -/

def Message.utterance : Message → Utterance String
  | .user _ => .speaks []
  | .assistant _ toolCalls => .speaks (toolCalls.map (·.id))
  | .tool toolCallId _ => .answers toolCallId

/-- The same for a history of typed messages. -/
def AnsweredHistory (history : List Message) : Prop :=
  Answered (history.map Message.utterance)

/-- A message of the browser app says as JSON what it says. -/
theorem utterance_messageToJson (message : Message) :
    utterance (messageToJson message) = message.utterance.map fun id => some (.string id) := by
  cases message with
  | user content => exact utterance_userMessage content
  | assistant content toolCalls =>
      rw [messageToJson, utterance_assistantValue, Message.utterance, Utterance.map, List.map_map]
      rfl
  | tool toolCallId content => exact utterance_toolResultMessage toolCallId content

/-- A history of the browser app in which every call is answered is well formed as JSON. -/
theorem AnsweredHistory.toJson {history : List Message} (answered : AnsweredHistory history) :
    WellFormed (historyToJson history) := by
  have renamed := answered.map fun id => some (Value.string id)
  rw [List.map_map] at renamed
  unfold WellFormed historyToJson
  rw [List.map_map]
  exact (List.map_congr_left fun message _ => utterance_messageToJson message) ▸ renamed

/-! ### Truncation

Truncation cuts at clean boundaries only, or not at all; either way a call and its answers stay
together. -/

/-- Truncation keeps everything, or what begins at a message that makes no calls. -/
theorem truncateHistory_cases (history : List Value) (max : Nat) :
    truncateHistory history max = history ∨
    ∃ before message after, history = before ++ message :: after ∧
      utterance message = .speaks [] ∧ truncateHistory history max = message :: after := by
  unfold truncateHistory
  split
  · exact .inl rfl
  · split
    · exact .inl rfl
    · rename_i kept found
      cases kept' : (history.drop (history.length - max)).dropWhile (!startsCleanly ·) with
      | nil => exact absurd kept' found
      | cons message after =>
          right
          obtain ⟨dropped, split⟩ : (message :: after) <:+ history := by
            rw [← kept']
            exact (List.dropWhile_suffix _).trans (List.drop_suffix _ _)
          have clean : startsCleanly message = true := by
            have first := List.head_dropWhile_not (!startsCleanly ·)
              (l := history.drop (history.length - max)) (by rw [kept']; exact List.cons_ne_nil _ _)
            simpa [kept'] using first
          exact ⟨dropped, message, after, split.symm, utterance_of_startsCleanly clean, rfl⟩

/-- Truncating drops a beginning. -/
theorem truncateHistory_suffix (history : List Value) (max : Nat) :
    truncateHistory history max <:+ history := by
  rcases truncateHistory_cases history max with same | ⟨before, message, after, split, _, kept⟩
  · exact ⟨[], same⟩
  · rw [kept, split]
    exact List.suffix_append _ _

/-- Truncating never drops everything. -/
theorem truncateHistory_ne_nil {history : List Value} (max : Nat) (nonempty : history ≠ []) :
    truncateHistory history max ≠ [] := by
  rcases truncateHistory_cases history max with same | ⟨before, message, after, _, _, kept⟩
  · rw [same]
    exact nonempty
  · rw [kept]
    exact List.cons_ne_nil _ _

/-- The last message is kept. -/
theorem truncateHistory_concat (history : List Value) (last : Value) (max : Nat) :
    ∃ kept, truncateHistory (history ++ [last]) max = kept ++ [last] := by
  have nonempty : truncateHistory (history ++ [last]) max ≠ [] :=
    truncateHistory_ne_nil max (by simp)
  have suffix := truncateHistory_suffix (history ++ [last]) max
  obtain ⟨kept, message, split⟩ := List.eq_nil_or_concat _ |>.resolve_left nonempty
  rw [List.concat_eq_append] at split
  rw [split] at suffix ⊢
  obtain ⟨dropped, joined⟩ := suffix
  rw [← List.append_assoc] at joined
  have same : message = last := by
    simpa using List.append_inj_right' joined rfl
  rw [same]
  exact ⟨kept, rfl⟩

namespace WellFormed

variable {first second history : List Value}

/-- Two well-formed dialogues, one behind the other, are well formed. -/
theorem append (wellFormed : WellFormed first) (later : WellFormed second) :
    WellFormed (first ++ second) := by
  unfold WellFormed
  rw [List.map_append]
  exact Answered.append wellFormed later

/-- A message that makes no calls is well formed by itself. -/
theorem plain {message : Value} (noCalls : utterance message = .speaks []) :
    WellFormed [message] := by
  unfold WellFormed
  rw [List.map_singleton, noCalls]
  exact Answered.batch []

/-- A message is well formed together with the answers to its calls. -/
theorem batch {content : Option String} {calls : List RawToolCall} {answers : List Value}
    (answered : answers.map utterance = (calls.map callId).map .answers) :
    WellFormed (assistantValue content calls :: answers) := by
  unfold WellFormed
  rw [List.map_cons, answered, utterance_assistantValue]
  exact Answered.batch _

/-- A well-formed dialogue stays well formed when it is truncated. -/
theorem truncateHistory (wellFormed : WellFormed history) (max : Nat) :
    WellFormed (truncateHistory history max) := by
  rcases truncateHistory_cases history max with same | ⟨before, message, after, split, plain, kept⟩
  · rw [same]
    exact wellFormed
  · unfold WellFormed at wellFormed ⊢
    rw [kept, List.map_cons, plain]
    rw [split, List.map_append, List.map_cons, plain] at wellFormed
    exact wellFormed.of_speaks

/-- The last message can be taken back exactly when it is not an answer and makes no calls. -/
theorem dropLast_iff {last : Value} (wellFormed : WellFormed (history ++ [last])) :
    WellFormed history ↔ utterance last = .speaks [] := by
  unfold WellFormed at wellFormed ⊢
  rw [List.map_append] at wellFormed
  exact Answered.dropLast_iff wellFormed

end WellFormed

end ProstheticConscience.Consensus.Conversation
