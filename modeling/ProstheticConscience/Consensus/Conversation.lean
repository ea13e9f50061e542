/-
Module: ProstheticConscience.Consensus.Conversation
Purpose: The local conversation state machine of the browser app, and the history that both
  clients send along with a request.
Trusted boundary: none
Main exports: Conversation.Message, Conversation.State, Conversation.reduce,
  Conversation.withToolResults, Conversation.messageToJson, Conversation.truncateHistory,
  Conversation.requestPayload
-/
import ProstheticConscience.Consensus.Response

namespace ProstheticConscience.Consensus.Conversation

inductive Message where
  | user (content : String)
  | assistant (content : Option String) (toolCalls : List RawToolCall)
  | tool (toolCallId content : String)
deriving DecidableEq, Repr

structure State where
  history : List Message
deriving DecidableEq, Repr

inductive Event where
  | userPromptReceived (content : String)
  | chatCompletionReceived (chunks : List Value)
deriving DecidableEq, Repr

inductive Effect where
  | chatCompletionDecodeFailed (error : String)
deriving DecidableEq, Repr

inductive RequestIntent where
  | chatCompletion
  | executeToolCalls (calls : List RawToolCall)
deriving DecidableEq, Repr

structure Transition where
  state : State
  effects : List Effect
  request : Option RequestIntent
deriving DecidableEq, Repr

structure ToolResult where
  toolCallId : String
  content : String
deriving DecidableEq, Repr

def init : State where
  history := []

def State.push (state : State) (message : Message) : State where
  history := state.history ++ [message]

def withToolResults (state : State) (results : List ToolResult) : State where
  history := state.history ++ results.map fun result => .tool result.toolCallId result.content

def messageToJson : Message → Value
  | .user content => userMessage content
  | .assistant content toolCalls => assistantValue content toolCalls
  | .tool toolCallId content => toolResultMessage toolCallId content

def historyToJson (history : List Message) : List Value :=
  history.map messageToJson

/-- Whether a truncated history may start with a message: a user message, or an assistant message
without tool calls. -/
def startsCleanly (message : Value) : Bool :=
  let role := (strMember message "role").getD ""
  let toolCalls := (message.get "tool_calls").bind Value.asArray
  let hasToolCalls := toolCalls.any fun calls => !calls.isEmpty
  role == "user" || (role == "assistant" && !hasToolCalls)

/-- At most `max` messages where a clean start allows it; without one the history is kept. -/
def truncateHistory (history : List Value) (max : Nat) : List Value :=
  if history.length ≤ max then history
  else
    match (history.drop (history.length - max)).dropWhile (!startsCleanly ·) with
    | [] => history
    | kept => kept

def systemMessage (content : String) : Value :=
  .ofMembers [("role", .string "system"), ("content", .string content)]

/-- The body of a chat completion request: the system message, then the history. -/
def requestPayload (model systemPrompt : String) (history tools : List Value) (maxTokens : Nat) :
    Value :=
  .ofMembers [("model", .string model),
    ("messages", .array (systemMessage systemPrompt :: history)),
    ("tools", .array tools), ("tool_choice", .string "auto"),
    ("max_tokens", .number (.posInt maxTokens))]

/-- Reduce one event; `usizeBits` is the width of an index on the platform. -/
def reduce (usizeBits : Nat) (state : State) : Event → Transition
  | .userPromptReceived content =>
      { state := state.push (.user content), effects := [], request := some .chatCompletion }
  | .chatCompletionReceived chunks =>
      match assemble usizeBits chunks with
      | .ok message =>
          { state := state.push (.assistant message.content message.toolCalls)
            effects := []
            request :=
              if message.toolCalls.isEmpty then none
              else some (.executeToolCalls message.toolCalls) }
      | .error error =>
          { state, effects := [.chatCompletionDecodeFailed error.message], request := none }

end ProstheticConscience.Consensus.Conversation
