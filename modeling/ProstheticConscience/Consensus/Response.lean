/-
Module: ProstheticConscience.Consensus.Response
Purpose: Assembling the streamed delta chunks of a chat completion into a complete assistant
  message, and the messages of a conversation as JSON.
Trusted boundary: none
Main exports: RawToolCall, CompletedAssistantMessage, AssemblerError, assemble,
  assistantMessageValue, toolResultMessage
-/
import Mathlib.Algebra.Group.Nat.Defs
import ProstheticConscience.Json

namespace ProstheticConscience.Consensus

structure RawToolFunction where
  name : String
  arguments : String
deriving DecidableEq, Repr

structure RawToolCall where
  id : String
  callType : String
  function : RawToolFunction
deriving DecidableEq, Repr

inductive FinishReason where
  | stop
  | length
  | contentFilter
  | toolCalls
  | functionCall
  | unknown (reason : String)
deriving DecidableEq, Repr

structure CompletedAssistantMessage where
  content : Option String
  toolCalls : List RawToolCall
  finishReason : Option FinishReason
deriving DecidableEq, Repr

inductive AssemblerError where
  | empty
  | missingChoices (index : Nat)
  | emptyChoices (index : Nat)
  | unexpectedRole (role : String)
deriving DecidableEq, Repr

def AssemblerError.message : AssemblerError → String
  | .empty => "no chunks to assemble"
  | .missingChoices index => "chunk " ++ toString index ++ " missing 'choices' array"
  | .emptyChoices index => "chunk " ++ toString index ++ " has empty 'choices' array"
  | .unexpectedRole role => "unexpected role in chat completion response: " ++ role

def parseFinishReason : String → FinishReason
  | "stop" => .stop
  | "length" => .length
  | "content_filter" => .contentFilter
  | "tool_calls" => .toolCalls
  | "function_call" => .functionCall
  | other => .unknown other

/-! ### Tool calls from fragments -/

/-- A tool call under construction. -/
structure ToolCallAccumulator where
  id : String
  callType : String
  functionName : String
  argumentsJson : String
deriving DecidableEq, Repr

def ToolCallAccumulator.new : ToolCallAccumulator :=
  ⟨"", "", "", ""⟩

/-- A string member of an object. -/
def strMember (value : Value) (key : String) : Option String :=
  (value.get key).bind Value.asStr

/-- The first fragment that is not empty stays. -/
def takeFirst (current : String) : Option String → String
  | some fragment => if !fragment.isEmpty && current.isEmpty then fragment else current
  | none => current

/-- Add the fragment `tc` to a tool call; its arguments are concatenated. -/
def ToolCallAccumulator.absorb (acc : ToolCallAccumulator) (tc : Value) : ToolCallAccumulator :=
  let func := tc.get "function"
  { id := takeFirst acc.id (strMember tc "id")
    callType := takeFirst acc.callType (strMember tc "type")
    functionName := takeFirst acc.functionName (func.bind (strMember · "name"))
    argumentsJson := acc.argumentsJson ++ ((func.bind (strMember · "arguments")).getD "") }

def ToolCallAccumulator.toCall (acc : ToolCallAccumulator) : RawToolCall :=
  ⟨acc.id, acc.callType, ⟨acc.functionName, acc.argumentsJson⟩⟩

/-- The tool calls so far, ordered by index: the one at `index` absorbs a fragment. -/
def absorbAt (index : Nat) (tc : Value) :
    List (Nat × ToolCallAccumulator) → List (Nat × ToolCallAccumulator)
  | [] => [(index, ToolCallAccumulator.new.absorb tc)]
  | (other, acc) :: rest =>
      if index < other then (index, ToolCallAccumulator.new.absorb tc) :: (other, acc) :: rest
      else if index = other then (other, acc.absorb tc) :: rest
      else (other, acc) :: absorbAt index tc rest

/-- The index of a fragment, in a `usize` of the given width. -/
def fragmentIndex (usizeBits : Nat) (tc : Value) : Nat :=
  ((tc.get "index").bind Value.asU64).getD 0 % 2 ^ usizeBits

/-! ### Assembly

`assemble` is a fold over the chunks, as the loop in the source is; each part of the message has its
own accumulator, and a chunk without a delta is passed over as a whole. -/

/-- A message under construction. -/
structure Assembly where
  role : String
  content : Option String
  finishReason : Option FinishReason
  toolCalls : List (Nat × ToolCallAccumulator)
deriving DecidableEq, Repr

def Assembly.absorbDelta (usizeBits : Nat) (assembly : Assembly) (choice delta : Value) :
    Assembly where
  role := takeFirst assembly.role (strMember delta "role")
  content :=
    match strMember delta "content" with
    | some fragment => some (assembly.content.getD "" ++ fragment)
    | none => assembly.content
  toolCalls :=
    (((delta.get "tool_calls").bind Value.asArray).getD []).foldl
      (fun calls tc => absorbAt (fragmentIndex usizeBits tc) tc calls) assembly.toolCalls
  finishReason :=
    match strMember choice "finish_reason" with
    | some reason => some (parseFinishReason reason)
    | none => assembly.finishReason

/-- Take in one chunk.  A choice without a delta is skipped, its finish reason included. -/
def Assembly.absorbChunk (usizeBits : Nat) (assembly : Assembly) (chunk : Value × Nat) :
    Except AssemblerError Assembly :=
  match (chunk.1.get "choices").bind Value.asArray with
  | none => .error (.missingChoices chunk.2)
  | some [] => .error (.emptyChoices chunk.2)
  | some (choice :: _) =>
      match choice.get "delta" with
      | none => .ok assembly
      | some delta => .ok (assembly.absorbDelta usizeBits choice delta)

/-- Assemble a sequence of streamed chunks into a complete assistant message. -/
def assemble (usizeBits : Nat) (chunks : List Value) :
    Except AssemblerError CompletedAssistantMessage :=
  if chunks.isEmpty then .error .empty
  else do
    let assembly ← chunks.zipIdx.foldlM (Assembly.absorbChunk usizeBits) ⟨"", none, none, []⟩
    if !assembly.role.isEmpty && assembly.role ≠ "assistant" then
      throw (.unexpectedRole assembly.role)
    return {
      content := assembly.content
      toolCalls := assembly.toolCalls.map fun entry => entry.2.toCall
      finishReason := assembly.finishReason }

/-- A chunk with one complete tool call and no content. -/
def toolCallChunk (id name arguments : String) : Value :=
  .ofMembers [("choices", .array [.ofMembers [("delta", .ofMembers [
    ("role", .string "assistant"),
    ("tool_calls", .array [.ofMembers [("index", .number (.posInt 0)), ("id", .string id),
      ("type", .string "function"),
      ("function", .ofMembers [("name", .string name), ("arguments", .string arguments)])]])])]])]

/-! ### Messages -/

def RawToolCall.toValue (call : RawToolCall) : Value :=
  .ofMembers [("id", .string call.id), ("type", .string call.callType),
    ("function", .ofMembers [("name", .string call.function.name),
      ("arguments", .string call.function.arguments)])]

/-- An absent content is written as null. -/
def contentValue : Option String → Value
  | some content => .string content
  | none => .null

/-- What an assistant message with tool calls, or without, is written as. -/
def assistantValue (content : Option String) (toolCalls : List RawToolCall) : Value :=
  if toolCalls.isEmpty then
    .ofMembers [("role", .string "assistant"), ("content", .string (content.getD ""))]
  else
    .ofMembers [("role", .string "assistant"), ("content", contentValue content),
      ("tool_calls", .array (toolCalls.map RawToolCall.toValue))]

/-- The JSON representation of an assistant message in the conversation history. -/
def assistantMessageValue (message : CompletedAssistantMessage) : Value :=
  assistantValue message.content message.toolCalls

/-- A tool result message of the conversation history. -/
def toolResultMessage (toolCallId content : String) : Value :=
  .ofMembers [("role", .string "tool"), ("tool_call_id", .string toolCallId),
    ("content", .string content)]

def userMessage (content : String) : Value :=
  .ofMembers [("role", .string "user"), ("content", .string content)]

end ProstheticConscience.Consensus
