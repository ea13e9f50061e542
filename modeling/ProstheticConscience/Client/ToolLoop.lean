/-
Module: ProstheticConscience.Client.ToolLoop
Purpose: The tool use loop of the terminal chat client, and when its caller's rollback restores the
  conversation after a failed turn.
Trusted boundary: the gateway and the tools are parameters that act on a world
Main exports: ToolRegistry, ToolLoopError, ToolLoop.run, handleLine, FirstRequestFails,
  ToolLoop.runRounds_ok_wellFormed, failed_turn_restores_iff
-/
import ProstheticConscience.Consensus.Dialogue
import ProstheticConscience.Library.AssocMap
import ProstheticConscience.Text

namespace ProstheticConscience.Client

open Consensus (RawToolCall CompletedAssistantMessage AssemblerError assemble assistantMessageValue
  toolResultMessage userMessage)
open Consensus.Conversation (WellFormed utterance callId)

/-! ### Tools -/

structure ToolDefinition where
  name : String
  description : String
  parameters : Value
deriving DecidableEq, Repr

inductive ToolError where
  | unknownTool (name : String)
  | invalidArguments (message : String)
  | executionFailed (message : String)
deriving DecidableEq, Repr

def ToolError.message : ToolError → String
  | .unknownTool name => "unknown tool: " ++ name
  | .invalidArguments message => "invalid arguments: " ++ message
  | .executionFailed message => "execution failed: " ++ message

/-- A tool; what it does and says depends on the world. -/
structure Tool (ω : Type) where
  definition : ToolDefinition
  execute : Value → ω → Except ToolError String × ω

structure ToolRegistry (ω : Type) where
  tools : AssocMap String (Tool ω)

namespace ToolRegistry

variable {ω : Type}

def new : ToolRegistry ω :=
  ⟨∅⟩

def register (registry : ToolRegistry ω) (tool : Tool ω) : ToolRegistry ω :=
  ⟨registry.tools.update tool.definition.name tool⟩

/-- The `tools` array of a request, in the iteration order of the map. -/
def definitions (registry : ToolRegistry ω) : List Value :=
  registry.tools.values.map fun tool =>
    .ofMembers [("type", .string "function"),
      ("function", .ofMembers [("name", .string tool.definition.name),
        ("description", .string tool.definition.description),
        ("parameters", tool.definition.parameters)])]

/-- Look up a tool by name and execute it. -/
def execute (registry : ToolRegistry ω) (name : String) (arguments : Value) (world : ω) :
    Except ToolError String × ω :=
  match registry.tools.lookup name with
  | none => (.error (.unknownTool name), world)
  | some tool => tool.execute arguments world

end ToolRegistry

/-! ### The gateway -/

inductive ClientError where
  | http (error : String)
  | status (status : Nat) (body : String)
  | parse (error : String)
deriving DecidableEq, Repr

def ClientError.message : ClientError → String
  | .http error => "HTTP request failed: " ++ error
  | .status code body => "gateway returned status " ++ toString code ++ ": " ++ body
  | .parse error => "SSE parse error: " ++ error

/-- The client side of the gateway: a request and the chunks that come back. -/
structure GatewayClient (ω : Type) where
  chat : Value → ω → Except ClientError (List Value) × ω

/-! ### The loop -/

inductive ToolLoopError where
  | client (error : ClientError)
  | assembler (error : AssemblerError)
  | tool (error : ToolError)
  | maxRoundsExceeded (max : Nat)
deriving DecidableEq, Repr

def ToolLoopError.message : ToolLoopError → String
  | .client error => "gateway request failed: " ++ error.message
  | .assembler error => "response assembly failed: " ++ error.message
  | .tool error => "tool execution failed: " ++ error.message
  | .maxRoundsExceeded max => "max tool rounds (" ++ toString max ++ ") exceeded"

/-- How the loop ends: its result, and the messages and the world that it leaves. -/
structure LoopEnd (ω : Type) where
  result : Except ToolLoopError CompletedAssistantMessage
  messages : List Value
  world : ω

/-- What the loop runs with. -/
structure ToolLoop (ω : Type) where
  fromStr : String → Except String Value
  usizeBits : Nat
  client : GatewayClient ω
  registry : ToolRegistry ω
  model : String
  maxRounds : Nat

namespace ToolLoop

variable {ω : Type}

def payload (loop : ToolLoop ω) (messages : List Value) : Value :=
  let definitions := loop.registry.definitions
  .ofMembers ([("model", .string loop.model), ("messages", .array messages)] ++
    if definitions.isEmpty then [] else [("tools", .array definitions)])

/-- Execute each tool call and append its result, up to the first that fails.  Arguments that do
not parse are passed on as null. -/
def executeToolCalls (loop : ToolLoop ω) :
    List RawToolCall → List Value → ω → Except ToolError Unit × List Value × ω
  | [], messages, world => (.ok (), messages, world)
  | call :: rest, messages, world =>
      let arguments := (loop.fromStr call.function.arguments).toOption.getD .null
      match loop.registry.execute call.function.name arguments world with
      | (.error error, world) => (.error error, messages, world)
      | (.ok result, world) =>
          loop.executeToolCalls rest (messages ++ [toolResultMessage call.id result]) world

/-- The rounds of the loop, of which `left` may still execute tools. -/
def runRounds (loop : ToolLoop ω) (left : Nat) (messages : List Value) (world : ω) : LoopEnd ω :=
  match loop.client.chat (loop.payload messages) world with
  | (.error error, world) => ⟨.error (.client error), messages, world⟩
  | (.ok chunks, world) =>
      match assemble loop.usizeBits chunks with
      | .error error => ⟨.error (.assembler error), messages, world⟩
      | .ok message =>
          let messages := messages ++ [assistantMessageValue message]
          if message.toolCalls.isEmpty then ⟨.ok message, messages, world⟩
          else
            match left with
            | 0 => ⟨.error (.maxRoundsExceeded loop.maxRounds), messages, world⟩
            | left + 1 =>
                match loop.executeToolCalls message.toolCalls messages world with
                | (.error error, messages, world) => ⟨.error (.tool error), messages, world⟩
                | (.ok (), messages, world) => loop.runRounds left messages world

/-- Send a chat request, execute the tools the model calls, and repeat until it answers. -/
def run (loop : ToolLoop ω) (messages : List Value) (world : ω) : LoopEnd ω :=
  loop.runRounds loop.maxRounds messages world

end ToolLoop

/-- One line of input: what is printed, the conversation afterwards, and the world.  After a failed
turn one message is removed. -/
def handleLine {ω : Type} (loop : ToolLoop ω) (messages : List Value) (line : String) (world : ω) :
    Option String × List Value × ω :=
  let line := trim line
  if line.isEmpty then (none, messages, world)
  else
    let ended := loop.run (messages ++ [userMessage line]) world
    match ended.result with
    | .ok message => (message.content, ended.messages, ended.world)
    | .error _ => (none, ended.messages.dropLast, ended.world)

/-! ### What a round can do -/

namespace ToolLoop

variable {ω : Type} (loop : ToolLoop ω)

/-- The ways in which the loop can end from a round with `left` rounds of tools behind it. -/
inductive Ends (left : Nat) (messages : List Value) (world : ω) :
    LoopEnd ω → Prop where
  | unanswered {error : ClientError} {next : ω}
      (reply : loop.client.chat (loop.payload messages) world = (.error error, next)) :
      Ends left messages world ⟨.error (.client error), messages, next⟩
  | unassembled {chunks : List Value} {error : AssemblerError} {next : ω}
      (reply : loop.client.chat (loop.payload messages) world = (.ok chunks, next))
      (failed : assemble loop.usizeBits chunks = .error error) :
      Ends left messages world ⟨.error (.assembler error), messages, next⟩
  | final {chunks : List Value} {message : CompletedAssistantMessage} {next : ω}
      (reply : loop.client.chat (loop.payload messages) world = (.ok chunks, next))
      (assembled : assemble loop.usizeBits chunks = .ok message)
      (noCalls : message.toolCalls = []) :
      Ends left messages world
        ⟨.ok message, messages ++ [assistantMessageValue message], next⟩
  | exhausted {chunks : List Value} {message : CompletedAssistantMessage} {next : ω}
      (reply : loop.client.chat (loop.payload messages) world = (.ok chunks, next))
      (assembled : assemble loop.usizeBits chunks = .ok message) (last : left = 0) :
      Ends left messages world
        ⟨.error (.maxRoundsExceeded loop.maxRounds), messages ++ [assistantMessageValue message],
          next⟩
  | toolFailed {chunks : List Value} {message : CompletedAssistantMessage} {next : ω}
      {error : ToolError} {after : List Value} {later : ω}
      (reply : loop.client.chat (loop.payload messages) world = (.ok chunks, next))
      (assembled : assemble loop.usizeBits chunks = .ok message)
      (executed : loop.executeToolCalls message.toolCalls
        (messages ++ [assistantMessageValue message]) next = (.error error, after, later)) :
      Ends left messages world ⟨.error (.tool error), after, later⟩
  | again {chunks : List Value} {message : CompletedAssistantMessage} {next : ω}
      {after : List Value} {later : ω} {rounds : Nat}
      (reply : loop.client.chat (loop.payload messages) world = (.ok chunks, next))
      (assembled : assemble loop.usizeBits chunks = .ok message) (more : left = rounds + 1)
      (executed : loop.executeToolCalls message.toolCalls
        (messages ++ [assistantMessageValue message]) next = (.ok (), after, later)) :
      Ends left messages world (loop.runRounds rounds after later)

theorem runRounds_ends (left : Nat) (messages : List Value) (world : ω) :
    loop.Ends left messages world (loop.runRounds left messages world) := by
  unfold runRounds
  cases reply : loop.client.chat (loop.payload messages) world with
  | mk answer next =>
      cases answer with
      | error error => exact .unanswered reply
      | ok chunks =>
          dsimp only
          cases assembled : assemble loop.usizeBits chunks with
          | error error => exact .unassembled reply assembled
          | ok message =>
              dsimp only
              split
              · rename_i noCalls
                exact .final reply assembled (List.isEmpty_iff.mp noCalls)
              · cases left with
                | zero => exact .exhausted reply assembled rfl
                | succ rounds =>
                    dsimp only
                    cases executed : loop.executeToolCalls message.toolCalls
                        (messages ++ [assistantMessageValue message]) next with
                    | mk outcome rest =>
                        cases outcome with
                        | error error => exact .toolFailed reply assembled executed
                        | ok done => exact .again reply assembled rfl executed

/-- Every executed call leaves its result behind the messages. -/
theorem executeToolCalls_appends (calls : List RawToolCall) (messages : List Value) (world : ω) :
    ∃ results, (loop.executeToolCalls calls messages world).2.1 = messages ++ results ∧
      ((loop.executeToolCalls calls messages world).1 = .ok () →
        results.map utterance = (calls.map callId).map .answers) := by
  induction calls generalizing messages world with
  | nil => exact ⟨[], (List.append_nil _).symm, fun _ => rfl⟩
  | cons call rest ih =>
      unfold executeToolCalls
      dsimp only
      split
      · exact ⟨[], (List.append_nil _).symm, fun finished => by cases finished⟩
      · rename_i result next _
        obtain ⟨results, appended, answered⟩ := ih (messages ++ [toolResultMessage call.id result])
          next
        refine ⟨toolResultMessage call.id result :: results, ?_, ?_⟩
        · rw [appended, List.append_assoc, List.singleton_append]
        · intro finished
          rw [List.map_cons, answered finished, Consensus.Conversation.utterance_toolResultMessage]
          rfl

/-- An assistant's message stays, whether the calls it makes are executed or not. -/
theorem executeToolCalls_keeps (message : CompletedAssistantMessage) (messages : List Value)
    (world : ω) :
    messages ++ [assistantMessageValue message] <+:
      (loop.executeToolCalls message.toolCalls (messages ++ [assistantMessageValue message])
        world).2.1 := by
  obtain ⟨results, appended, _⟩ := loop.executeToolCalls_appends message.toolCalls
    (messages ++ [assistantMessageValue message]) world
  rw [appended]
  exact List.prefix_append _ _

/-- The loop never takes a message back. -/
theorem runRounds_appends (left : Nat) (messages : List Value) (world : ω) :
    messages <+: (loop.runRounds left messages world).messages := by
  induction left using Nat.strongRecOn generalizing messages world with
  | ind left ih =>
      have step := loop.runRounds_ends left messages world
      generalize loop.runRounds left messages world = ended at step ⊢
      cases step with
      | unanswered => exact List.prefix_rfl
      | unassembled => exact List.prefix_rfl
      | final => exact List.prefix_append _ _
      | exhausted => exact List.prefix_append _ _
      | @toolFailed _ message next _ _ _ _ _ executed =>
          have kept := loop.executeToolCalls_keeps message messages next
          rw [executed] at kept
          exact (List.prefix_append _ _).trans kept
      | @again _ message next after later rounds _ _ more executed =>
          have kept := loop.executeToolCalls_keeps message messages next
          rw [executed] at kept
          have further := ih rounds (by omega) after later
          exact (List.prefix_append _ _).trans (kept.trans further)

/-- The first request is not answered, or its answer cannot be assembled. -/
def FirstRequestFails (messages : List Value) (world : ω) : Prop :=
  (∃ error, (loop.client.chat (loop.payload messages) world).1 = .error error) ∨
    ∃ chunks error, (loop.client.chat (loop.payload messages) world).1 = .ok chunks ∧
      assemble loop.usizeBits chunks = .error error

/-- Only a failure of the first request leaves the messages alone: once an answer is assembled it
is appended, before anything else can fail. -/
theorem runRounds_messages_eq_iff (left : Nat) (messages : List Value) (world : ω) :
    (loop.runRounds left messages world).messages = messages ↔
      loop.FirstRequestFails messages world := by
  have grows : ∀ {chunks message next} {after : List Value},
      loop.client.chat (loop.payload messages) world = (.ok chunks, next) →
      assemble loop.usizeBits chunks = .ok message →
      messages ++ [assistantMessageValue message] <+: after →
      (after = messages ↔ loop.FirstRequestFails messages world) := by
    intro chunks message next after reply assembled kept
    constructor
    · rintro rfl
      have longer := kept.length_le
      rw [List.length_append] at longer
      exact absurd longer (Nat.not_succ_le_self _)
    · rintro (⟨error, failed⟩ | ⟨others, error, answered, failed⟩)
      · rw [reply] at failed
        cases failed
      · rw [reply] at answered
        cases answered
        rw [assembled] at failed
        cases failed
  have step := loop.runRounds_ends left messages world
  generalize loop.runRounds left messages world = ended at step ⊢
  cases step with
  | @unanswered error _ reply =>
      apply iff_of_true rfl
      exact .inl ⟨error, by rw [reply]⟩
  | @unassembled chunks error _ reply failed =>
      apply iff_of_true rfl
      exact .inr ⟨chunks, error, by rw [reply], failed⟩
  | final reply assembled => exact grows reply assembled List.prefix_rfl
  | exhausted reply assembled => exact grows reply assembled List.prefix_rfl
  | @toolFailed _ message next _ _ _ reply assembled executed =>
      have kept := loop.executeToolCalls_keeps message messages next
      rw [executed] at kept
      exact grows reply assembled kept
  | @again _ message next after later rounds reply assembled _ executed =>
      have kept := loop.executeToolCalls_keeps message messages next
      rw [executed] at kept
      exact grows reply assembled (kept.trans (loop.runRounds_appends rounds after later))

/-- A turn that succeeds leaves a dialogue in which every call is answered. -/
theorem runRounds_ok_wellFormed (left : Nat) {messages : List Value} {world : ω}
    (wellFormed : WellFormed messages) {message : CompletedAssistantMessage}
    (succeeded : (loop.runRounds left messages world).result = .ok message) :
    WellFormed (loop.runRounds left messages world).messages := by
  induction left using Nat.strongRecOn generalizing messages world with
  | ind left ih =>
      have step := loop.runRounds_ends left messages world
      generalize loop.runRounds left messages world = ended at step succeeded ⊢
      cases step with
      | unanswered => cases succeeded
      | unassembled => cases succeeded
      | exhausted => cases succeeded
      | toolFailed => cases succeeded
      | @final _ answer _ _ _ noCalls =>
          have unanswered : ([] : List Value).map utterance =
              (answer.toolCalls.map callId).map .answers := by
            rw [noCalls]
            rfl
          exact wellFormed.append (.batch unanswered)
      | @again _ answer next after later rounds _ _ more executed =>
          obtain ⟨results, appended, answered⟩ := loop.executeToolCalls_appends answer.toolCalls
            (messages ++ [assistantMessageValue answer]) next
          rw [executed] at appended answered
          apply ih rounds (by omega) _ succeeded
          have afterEq : after = messages ++ [assistantMessageValue answer] ++ results := appended
          rw [afterEq, List.append_assoc]
          exact wellFormed.append (.batch (answered rfl))

end ToolLoop

/-! ### The caller's rollback -/

section Rollback

variable {ω : Type} (loop : ToolLoop ω) (before : List Value) (line : String) (world : ω)

/-- After a failed turn the caller takes back the user's message exactly if the turn failed at its
first request; otherwise it takes back something that the loop appended. -/
theorem failed_turn_restores_iff {error : ToolLoopError} (visible : (trim line).isEmpty = false)
    (failed : (loop.run (before ++ [userMessage (trim line)]) world).result = .error error) :
    (handleLine loop before line world).2.1 = before ↔
      loop.FirstRequestFails (before ++ [userMessage (trim line)]) world := by
  have popped : (handleLine loop before line world).2.1 =
      (loop.run (before ++ [userMessage (trim line)]) world).messages.dropLast := by
    unfold handleLine
    dsimp only
    rw [visible, failed]
    rfl
  rw [popped, ← loop.runRounds_messages_eq_iff loop.maxRounds]
  change _ ↔ (loop.run _ _).messages = _
  obtain ⟨added, appended⟩ :=
    loop.runRounds_appends loop.maxRounds (before ++ [userMessage (trim line)]) world
  change _ = (loop.run _ _).messages at appended
  rw [← appended]
  constructor
  · intro restored
    have lengths := congrArg List.length restored
    rw [List.length_dropLast, List.length_append, List.length_append, List.length_singleton]
      at lengths
    have none_added : added = [] := List.length_eq_zero_iff.mp (by omega)
    rw [none_added, List.append_nil]
  · intro same
    rw [same, List.dropLast_concat]

end Rollback

/-- A model that asks for the time and then for a tool that does not exist. -/
def strayCallLoop : ToolLoop Unit where
  fromStr _ := .ok (.object [])
  usizeBits := 64
  client := {
    chat := fun _ world => (.ok [.ofMembers [("choices", .array [.ofMembers [
      ("delta", .ofMembers [("role", .string "assistant"), ("tool_calls", .array [
        .ofMembers [("index", .number (.posInt 0)), ("id", .string "call_1"),
          ("type", .string "function"), ("function", .ofMembers
            [("name", .string "get_current_time"), ("arguments", .string "\x7b\x7d")])],
        .ofMembers [("index", .number (.posInt 1)), ("id", .string "call_2"),
          ("type", .string "function"), ("function", .ofMembers
            [("name", .string "get_weather"), ("arguments", .string "\x7b\x7d")])]])]),
      ("finish_reason", .string "tool_calls")]])]], world) }
  registry := ToolRegistry.new.register {
    definition := {
      name := "get_current_time"
      description := "Get the current date and time in UTC"
      parameters := .ofMembers [("type", .string "object"), ("properties", .ofMembers [])] }
    execute := fun _ world => (.ok "2026-03-16T00:00:00Z", world) }
  model := "default"
  maxRounds := 10

theorem strayCallLoop_failed :
    (strayCallLoop.run ([] ++ [userMessage (trim "What time is it?")]) ()).result =
      .error (.tool (.unknownTool "get_weather")) :=
  rfl

/-- What is left of the turn is the user's message and an unanswered pair of calls. -/
theorem strayCall_not_restored :
    ¬∀ (ω : Type) (loop : ToolLoop ω) (before : List Value) (line : String) (world : ω)
      (error : ToolLoopError), (trim line).isEmpty = false →
      (loop.run (before ++ [userMessage (trim line)]) world).result = .error error →
      (handleLine loop before line world).2.1 = before := by
  intro restores
  have empty := restores Unit strayCallLoop [] "What time is it?" () _ (by decide +kernel)
    strayCallLoop_failed
  exact absurd (congrArg List.length empty) (by decide +kernel)

theorem strayCall_restores_iff :
    (handleLine strayCallLoop [] "What time is it?" ()).2.1 = [] ↔
      strayCallLoop.FirstRequestFails ([] ++ [userMessage (trim "What time is it?")]) () :=
  failed_turn_restores_iff strayCallLoop [] "What time is it?" () (by decide +kernel)
    strayCallLoop_failed

end ProstheticConscience.Client
