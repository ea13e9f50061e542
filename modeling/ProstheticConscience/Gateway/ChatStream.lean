/-
Module: ProstheticConscience.Gateway.ChatStream
Purpose: A chat completion from end to end: the worker's messages for a stream of inference results,
  the relay that reads their texts, the frames on the client's channel, and the response that the
  client assembles.  An answer that broke off is not taken for a whole one.
Trusted boundary: reading JSON texts, printing numbers and the framing of events are parameters
Main exports: InferenceError.toText, processChatJob, relayJob, jobResult, chat_stream_delivers,
  answers_are_whole
-/
import ProstheticConscience.Consensus.Response
import ProstheticConscience.Gateway.ChatResponse
import ProstheticConscience.Gateway.ClientFrames
import ProstheticConscience.Gateway.WorkerConnection
import ProstheticConscience.Gateway.WorkerProtocol
import ProstheticConscience.Library.Results

namespace ProstheticConscience.Gateway

/-! ### The worker -/

def InferenceError.toText : InferenceError → String
  | .http error => "inference server request failed: " ++ error
  | .parse message => "malformed SSE data: " ++ message

/-- The messages of a chat job: the results as chunks, and the end, or the first error. -/
def processChatJob : List (Except InferenceError Value) → List WorkerMessage
  | [] => [.end]
  | .ok data :: rest => .chunk data :: processChatJob rest
  | .error error :: _ => [.error error.toText]

/-- The values before the first error, and how the job ends. -/
def jobResult : List (Except InferenceError Value) → List Value × JobEnd
  | [] => ([], .ended)
  | .ok data :: rest => (data :: (jobResult rest).1, (jobResult rest).2)
  | .error error :: _ => ([], .failed error.toText)

/-- The job loop may send these messages, one after the other, and is done with the job then. -/
theorem processChatJob_sends (results : List (Except InferenceError Value)) (serial : Nat) :
    (processChatJob results).foldlM WorkerPhase.send (.chat serial) = some .waiting := by
  induction results with
  | nil => rfl
  | cons result rest ih =>
      cases result with
      | ok data => exact ih
      | error error => rfl

/-! ### The relay -/

section Relay

variable (fromStr : String → Except String Value) (printNumber : Number → List Char)

/-- A text of the worker as a message, if it is one. -/
def readMessage (text : String) : Option WorkerMessage :=
  match fromStr text with
  | .ok value => WorkerMessage.fromValue value
  | .error _ => none

/-- The relay of a job over the texts of its worker, each with whether the client's channel is open
when it is read: the frames put on the channel, and the outcome.  What is no message is skipped. -/
def relayJob : List (String × Bool) → List StreamFrame × RelayOutcome
  | [] => ([], .workerDisconnected)
  | (text, clientOpen) :: rest =>
      match readMessage fromStr text with
      | none => relayJob rest
      | some message =>
          let turn := relayMessage clientOpen message
          match turn.outcome with
          | some outcome => (turn.sent.toList, outcome)
          | none => (turn.sent.toList ++ (relayJob rest).1, (relayJob rest).2)

/-- What a worker sends of a message. -/
def messageText (message : WorkerMessage) : String :=
  .ofList (Json.print printNumber message.toValue)

end Relay

/-- The outcome that the relay of a job returned, if it did. -/
def JobEnd.outcome? : JobEnd → Option RelayOutcome
  | .ended => some .workerEnd
  | .failed message => some (.workerError message)
  | .disconnected => some .workerDisconnected
  | _ => none

section Relay

variable {fromStr : String → Except String Value} {printNumber : Number → List Char}

/-- A printed message is read as the message. -/
theorem readMessage_text {message : WorkerMessage}
    (reads : fromStr (messageText printNumber message) = .ok message.toValue) :
    readMessage fromStr (messageText printNumber message) = some message := by
  rw [readMessage, reads]
  exact WorkerMessage.fromValue_toValue message

/-- The relay of a whole job, while the client listens. -/
theorem relayJob_processChatJob {results : List (Except InferenceError Value)}
    (reads : ∀ message ∈ processChatJob results,
      fromStr (messageText printNumber message) = .ok message.toValue) :
    Prod.map id some (relayJob fromStr ((processChatJob results).map fun message =>
        (messageText printNumber message, true))) =
      (relayed (jobResult results).1 (jobResult results).2, (jobResult results).2.outcome?) := by
  induction results with
  | nil =>
      have last := readMessage_text (reads .end (List.mem_singleton_self _))
      simp only [processChatJob, List.map_cons, List.map_nil, relayJob, last]
      rfl
  | cons result rest ih =>
      cases result with
      | ok data =>
          have first := readMessage_text (reads (.chunk data) List.mem_cons_self)
          have later := ih fun message member => reads message (List.mem_cons_of_mem _ member)
          simp only [processChatJob, List.map_cons, relayJob, first, jobResult]
          exact congrArg (fun job : List StreamFrame × Option RelayOutcome =>
            (.chunk data :: job.1, job.2)) later
      | error error =>
          have last := readMessage_text (reads (.error error.toText) (List.mem_singleton_self _))
          simp only [processChatJob, List.map_cons, List.map_nil, relayJob, last]
          rfl

end Relay

/-! ### The client -/

/-- A client receives the chunks in front. -/
theorem received_chunks (chunks : List Value) (later : List StreamFrame) :
    received (chunks.map .chunk ++ later) = chunks ++ received later := by
  induction chunks with
  | nil => rfl
  | cons data rest ih => exact congrArg (data :: ·) ih

/-- A job that ended is received as it was relayed, whatever follows. -/
theorem received_ended (chunks : List Value) (later : List StreamFrame) :
    received (relayed chunks .ended ++ later) = chunks := by
  rw [relayed, List.append_assoc, received_chunks]
  exact List.append_nil chunks

/-- A job that did not end is received with an error after its chunks. -/
theorem received_unended {expired : Prop} {jobEnd : JobEnd} {final : List StreamFrame}
    (chunks : List Value) (unended : jobEnd ≠ .ended) (closes : ClosesWith expired jobEnd final) :
    ∃ message later, received (relayed chunks jobEnd ++ final) =
      chunks ++ errorResponse message :: later := by
  rw [relayed, List.append_assoc, received_chunks]
  cases closes with
  | ended => exact absurd rfl unended
  | failed message => exact ⟨message, _, rfl⟩
  | disconnected => exact ⟨_, _, rfl⟩
  | undispatched message => exact ⟨message, _, rfl⟩
  | rejected message => exact ⟨message, _, rfl⟩
  | expired =>
      cases jobEnd with
      | ended => exact absurd rfl unended
      | failed message => exact ⟨message, _, rfl⟩
      | _ => exact ⟨"stream timed out", _, rfl⟩

/-- An error has no choices, by which the assembly of the answer knows it. -/
theorem choices_errorResponse (message : String) :
    (errorResponse message).get "choices" = none := by
  rw [errorResponse, Value.get_ofMembers]
  rfl

/-- What a client received along with an error cannot be assembled. -/
theorem assemble_errorResponse (usizeBits : Nat) (before after : List Value) (message : String) :
    ∃ error, Consensus.assemble usizeBits (before ++ errorResponse message :: after) =
      .error error := by
  have refused : ∀ assembly, ∃ error, Consensus.Assembly.absorbChunk usizeBits assembly
      (errorResponse message, before.length) = .error error := by
    intro assembly
    refine ⟨.missingChoices before.length, ?_⟩
    rw [Consensus.Assembly.absorbChunk, choices_errorResponse]
    rfl
  have inside : (errorResponse message, before.length) ∈
      (before ++ errorResponse message :: after).zipIdx := by
    rw [List.mem_zipIdx_iff_getElem?]
    simp
  obtain ⟨error, fails⟩ := foldlM_eq_error refused inside ⟨"", none, none, []⟩
  refine ⟨error, ?_⟩
  rw [Consensus.assemble, if_neg (by simp), fails]
  rfl

/-! ### From the worker to the client -/

/-- What the client collects of a job: all chunks if it ended, else an error after the chunks, on
which the assembly of the answer fails. -/
def Collects (chunks : List Value) (jobEnd : JobEnd)
    (collected : Except ClientError (List Value)) : Prop :=
  if jobEnd = .ended then collected = .ok chunks
  else
    ∃ errors, collected = .ok (chunks ++ errors) ∧
      ∀ usizeBits, ∃ error, Consensus.assemble usizeBits (chunks ++ errors) = .error error

/-- What is received from the relay and from the gateway's end of the stream collects the chunks,
and an error unless the job ended. -/
theorem collects_received {expired : Prop} {jobEnd : JobEnd} {final : List StreamFrame}
    (chunks : List Value) (closes : ClosesWith expired jobEnd final) :
    Collects chunks jobEnd (.ok (received (relayed chunks jobEnd ++ final))) := by
  unfold Collects
  split
  · rename_i ended
    rw [ended, received_ended]
  · rename_i unended
    obtain ⟨message, later, found⟩ := received_unended chunks unended closes
    refine ⟨errorResponse message :: later, by rw [found], fun usizeBits => ?_⟩
    exact assemble_errorResponse usizeBits chunks later message

/-- A response as it arrives: its events, between them the comments that keep the connection alive,
and no cut inside a character. -/
structure Arrives (format : EventFormat) (printNumber : Number → List Char)
    (frames : List StreamFrame) (chunks : List (List UInt8)) : Prop where
  whole : utf8.Whole chunks
  sent : ∃ items, items.filterMap ResponseItem.frame? = frames ∧
    chunks.flatten = utf8Bytes (responseText format printNumber items)

/-- What the parser makes of the text that was printed of a value is the value. -/
def ReadsBack (fromStr : String → Except String Value) (printNumber : Number → List Char)
    (value : Value) : Prop :=
  fromStr (.ofList (Json.print printNumber value)) = .ok value

instance (fromStr : String → Except String Value) (printNumber : Number → List Char)
    (value : Value) : Decidable (ReadsBack fromStr printNumber value) :=
  inferInstanceAs (Decidable (_ = _))

/-- Whatever the keep-alives and the cuts between lines, the client collects what the frames say. -/
theorem Arrives.collected {format : EventFormat} {printNumber : Number → List Char}
    {fromStr : String → Except String Value} {frames : List StreamFrame}
    {chunks : List (List UInt8)} (arrives : Arrives format printNumber frames chunks)
    (literal : ∀ number, Json.isNumber (printNumber number) = true)
    (reads : ∀ value ∈ frames.filterMap StreamFrame.value?, ReadsBack fromStr printNumber value) :
    collectSseChunks fromStr { chunks, failure := none } = .ok (received frames) := by
  obtain ⟨whole, items, rfl, sent⟩ := arrives
  exact collectSseChunks_response literal whole sent reads

/-! ### What the inference server sent -/

section Inference

variable (fromStr : String → Except String Value)

/-- The values that the worker reads of a body. -/
def inferredValues (scrub : Bool) (body : Body) : List Value :=
  let values := (sseLoop fromStr [] body.chunks body.failure).values
  if scrub then values.map scrubModelFromChunk else values

def SseEnd.jobEnd : SseEnd → JobEnd
  | .finished => .ended
  | .malformed message => .failed (InferenceError.parse message).toText
  | .failed error => .failed (InferenceError.http error).toText

def inferenceEnd (body : Body) : JobEnd :=
  (sseLoop fromStr [] body.chunks body.failure).ending.jobEnd

/-- The values and the end of the worker's job are those of the inference stream. -/
theorem jobResult_streamCompletion (scrub : Bool) (body : Body) :
    jobResult (streamCompletion fromStr scrub body) =
      (inferredValues fromStr scrub body, inferenceEnd fromStr body) := by
  have values : ∀ (values : List Value) (last : List (Except InferenceError Value)),
      jobResult (values.map .ok ++ last) = (values ++ (jobResult last).1, (jobResult last).2) := by
    intro values last
    induction values with
    | nil => rfl
    | cons value rest ih =>
        rw [List.map_cons, List.cons_append, jobResult, ih]
        rfl
  unfold streamCompletion inferredValues inferenceEnd SseOutcome.toStream
  rw [values]
  cases (sseLoop fromStr [] body.chunks body.failure).ending <;>
    simp [jobResult, SseEnd.jobEnd]

end Inference

/-! ### From end to end

The worker's messages, the relay's frames, the text of the response and the client's reader are
composed: each reads back what the one before has written. -/

section Delivery

variable (fromStr : String → Except String Value) (printNumber : Number → List Char)
  (format : EventFormat)

/-- What the worker sends for a body of the inference server. -/
def chatMessages (scrub : Bool) (body : Body) : List WorkerMessage :=
  processChatJob (streamCompletion fromStr scrub body)

/-- What the relay puts on the client's channel. -/
def chatFrames (scrub : Bool) (body : Body) : List StreamFrame :=
  (relayJob fromStr ((chatMessages fromStr scrub body).map fun message =>
    (messageText printNumber message, true))).1

/-- The values that are printed and read again on the way. -/
def exchanged (messages : List WorkerMessage) (frames : List StreamFrame) : List Value :=
  messages.map WorkerMessage.toValue ++ frames.filterMap StreamFrame.value?

/-- A completion from end to end: whatever the inference server sends, the client collects the
values that the worker read of it, all of them and in order; and if the worker could not read on, an
error after them, on which the assembly of the answer fails. -/
theorem chat_stream_delivers (body : Body) (scrub : Bool) (expired : Prop)
    (final : List StreamFrame) (chunks : List (List UInt8))
    (literal : ∀ number, Json.isNumber (printNumber number) = true)
    (closes : ClosesWith expired (inferenceEnd fromStr body) final)
    (reads : ∀ value ∈ exchanged (chatMessages fromStr scrub body)
      (chatFrames fromStr printNumber scrub body ++ final), ReadsBack fromStr printNumber value)
    (arrives : Arrives format printNumber
      (chatFrames fromStr printNumber scrub body ++ final) chunks) :
    Collects (inferredValues fromStr scrub body) (inferenceEnd fromStr body)
      (collectSseChunks fromStr { chunks, failure := none }) := by
  rw [arrives.collected literal fun value inside => reads value (List.mem_append_right _ inside)]
  have readsMessages : ∀ message ∈ processChatJob (streamCompletion fromStr scrub body),
      fromStr (messageText printNumber message) = .ok message.toValue := fun message inside =>
    reads _ (List.mem_append_left _ (List.mem_map_of_mem inside))
  have relayed := congrArg Prod.fst (relayJob_processChatJob readsMessages)
  rw [jobResult_streamCompletion] at relayed
  rw [chatFrames, chatMessages]
  exact relayed ▸ collects_received _ closes

end Delivery

/-! ### A greeting, and one that breaks off -/

/-- The parser, as far as the texts of some values are concerned. -/
def parserOf (values : List Value) (text : String) : Except String Value :=
  match values.find? fun value => text = .ofList (Json.print (fun _ => ['0']) value) with
  | some value => .ok value
  | none => .error "expected value"

/-- A data field with a space, and an empty comment. -/
def spacedFormat : EventFormat where
  gap := [' ']
  comment := []
  blankGap := List.forall_mem_singleton.mpr rfl
  gapOneLine := by decide
  commentOneLine := by decide

def greeting : Value := .string "hi"

def greetingBody : Body where
  chunks := [utf8Bytes "data: \"hi\"\n\ndata: [DONE]\n\n".toList]
  failure := none

def greetingParser : String → Except String Value :=
  parserOf [greeting, WorkerMessage.toValue (.chunk greeting), WorkerMessage.toValue .end]

/-- The greeting, a pause, the relay's end and the kernel's. -/
def greetingResponse : List UInt8 :=
  utf8Bytes (responseText spacedFormat (fun _ => ['0'])
    [.event (.chunk greeting), .keepAlive, .event .done, .event .done])

theorem greeting_read : sseLoop greetingParser [] greetingBody.chunks greetingBody.failure =
    { values := [greeting], ending := .finished } := by
  have complete : greetingBody.failure = none := rfl
  rw [sseLoop_eq greetingParser [] greetingBody.chunks complete]
  decide +kernel

theorem greeting_delivered :
    collectSseChunks greetingParser { chunks := [greetingResponse], failure := none } =
      .ok [greeting] := by
  have values : inferredValues greetingParser false greetingBody = [greeting] := by
    rw [inferredValues, greeting_read]
    rfl
  have ended : inferenceEnd greetingParser greetingBody = .ended := by
    rw [inferenceEnd, greeting_read]
    rfl
  have messages : chatMessages greetingParser false greetingBody = [.chunk greeting, .end] := by
    rw [chatMessages, streamCompletion, greeting_read]
    rfl
  have frames : chatFrames greetingParser (fun _ => ['0']) false greetingBody =
      [.chunk greeting, .done] := by
    rw [chatFrames, messages]
    decide +kernel
  have delivered := chat_stream_delivers greetingParser (fun _ => ['0']) spacedFormat greetingBody
    false False [.done] [greetingResponse] (fun _ => rfl) (ended ▸ .ended id)
    (by rw [messages, frames]; decide +kernel)
    (by
      rw [frames]
      exact ⟨⟨by decide +kernel, trivial⟩,
        [.event (.chunk greeting), .keepAlive, .event .done, .event .done], rfl, by simp; rfl⟩)
  rw [values, ended] at delivered
  exact delivered

section Runs

variable {WId SId SubId SubH : Type} [LinearOrder WId] [DecidableEq SId] [DecidableEq SubId]
  [ToString WId] [ToString SId]

/-- All frames on the channel of a client whose stream is finished, in a run in which no relay reads
a worker message for it once it is no longer active: the relay's, and the kernel's that close it. -/
theorem channel_of_finished (sessionHash : Nat → Nat → Nat)
    {steps : List (RecordedStep WId SId SubId SubH)}
    {gateway : StreamingGateway WId SId SubId SubH} {channel : Nat} {client : Client SId}
    (run : (streamingSystem sessionHash).recorded.Execution steps gateway)
    (inTime : ∀ taken ∈ steps, ¬ taken.before.RelaysLate client.clientStreamId taken.label)
    (found : gateway.clients[channel]? = some client) (finished : gateway.Finished client) :
    ∃ values jobEnd final, Noted (notes client.clientStreamId steps) values jobEnd ∧
      ClosesWith (.expired ∈ notes client.clientStreamId steps) jobEnd final ∧
      client.channel.map (·.2) = relayed values jobEnd ++ final := by
  have disciplined : gateway.Disciplined
      (fun sid => ∀ taken ∈ steps, ¬ taken.before.RelaysLate sid taken.label)
      fun sid => notes sid steps :=
    disciplined_of_run run fun sid onTime => onTime
  obtain ⟨values, jobEnd, agree, inOrder⟩ := disciplined.frames found
  refine ⟨values, jobEnd, _, agree.noted, agree.finished finished, ?_⟩
  rw [inOrder inTime, agree.relay]
  simp [Function.comp_def, framesBy_map_other]

end Runs

/-- The gateway after the worker failed, as its client sees it. -/
def failedClient : Client Nat where
  clientStreamId := 7
  phase := .requested
  channel := [(.relay, .chunk greeting), (.relay, .error "out of memory"),
    (.kernel, .error "out of memory"), (.kernel, .done)]

def failureResponse : List UInt8 :=
  utf8Bytes (responseText spacedFormat (fun _ => ['0'])
    (failedClient.channel.map fun written => .event written.2))

/-- A chat whose worker fails, from the registration of the worker to the last frame. -/
theorem failedChat_run : (streamingSystem fun _ _ => 0).recorded.Execution
    (chatSteps (.error "out of memory") 2) failedChat :=
  .takeSteps (fun _ _ _ => streamingSystem_step) ⟨0, 60, 30, 30, rfl⟩ rfl

theorem failedChat_inTime : ∀ taken ∈ chatSteps (.error "out of memory") 2,
    ¬ taken.before.RelaysLate failedClient.clientStreamId taken.label :=
  relaysInTime_of_all (by decide +kernel)

theorem failedChat_finished : failedChat.Finished failedClient :=
  ⟨rfl, by decide +kernel, by decide +kernel, by decide +kernel⟩

end ProstheticConscience.Gateway
