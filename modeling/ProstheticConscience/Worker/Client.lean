/-
Module: ProstheticConscience.Worker.Client
Purpose: The worker: its jobs, each with messages that may fail to be sent, the loop over the jobs
  of a connection, and the loop over connections with the waits between them.
Trusted boundary: the websocket, the backends and the parser of job messages are parameters
Main exports: processChatJob, processTranscriptionJob, jobLoop, Serves, jobLoop_serves, Attempt,
  run, worker_serves
-/
import ProstheticConscience.Gateway.Transcription
import ProstheticConscience.Library.Backoff
import ProstheticConscience.Library.Delivery

namespace ProstheticConscience.Worker

open Gateway (InferenceError NumberedJob TranscriptionError WorkerPhase startJob)

/-- What the backends give for the payload of a job: the results of the inference server, and the
answer of the whisper server, if the worker has one. -/
structure JobWork where
  inference : List (Except InferenceError Value)
  whisper : Option (Except TranscriptionError Value)
deriving DecidableEq

/-! ### Jobs -/

section Jobs

variable (fate : Nat → Except String Unit)

def sendMessage (sent : List WorkerMessage) (message : WorkerMessage) :
    Except (String × List WorkerMessage) (List WorkerMessage) :=
  sendOne (fun n => (fate n).mapError ("websocket send error: " ++ ·)) sent message

/-- Stream the results of a chat job.  An error ends the job after it was sent. -/
def processChatJob (sent : List WorkerMessage) :
    List (Except InferenceError Value) → Except (String × List WorkerMessage) (List WorkerMessage)
  | [] => sendMessage fate sent .end
  | .ok data :: rest => do
      let sent ← sendMessage fate sent (.chunk data)
      processChatJob sent rest
  | .error error :: _ => do
      let sent ← sendMessage fate sent (.error error.toText)
      throw ("inference error: " ++ error.toText, sent)

def processTranscriptionJob (sent : List WorkerMessage) :
    Option (Except TranscriptionError Value) →
      Except (String × List WorkerMessage) (List WorkerMessage)
  | none => do
      let sent ← sendMessage fate sent (.error "transcription not configured on this worker")
      throw ("transcription not configured", sent)
  | some (.ok data) => do
      let sent ← sendMessage fate sent (.chunk data)
      sendMessage fate sent .end
  | some (.error error) => do
      let sent ← sendMessage fate sent (.error error.toText)
      throw ("transcription error: " ++ error.toText, sent)

def processJob (sent : List WorkerMessage) (job : GatewayToWorker) (work : JobWork) :
    Except (String × List WorkerMessage) (List WorkerMessage) :=
  match job with
  | .job _ .chat _ => processChatJob fate sent work.inference
  | .job _ .transcription _ => processTranscriptionJob fate sent work.whisper

/-- The job loop looks at the text of an error. -/
def isSendError (message : String) : Bool :=
  "websocket send error".toList.isPrefixOf message.toList

variable (parse : String → Except String GatewayToWorker)

/-- The loop over what is read from a connection, with what the backends give for each job: why it
returns, unless it waits for more, and the messages sent so far. -/
def jobLoop (sent : List WorkerMessage) :
    List (SocketRead × JobWork) → Option String × List WorkerMessage
  | [] => (none, sent)
  | (.text text, work) :: rest =>
      match parse text with
      | .error error => (some ("failed to parse job message: " ++ error), sent)
      | .ok job =>
          match processJob fate sent job work with
          | .ok sent => jobLoop sent rest
          | .error (message, sent) =>
              if isSendError message then (some message, sent) else jobLoop sent rest
  | (.close, _) :: _ => (some "gateway sent close frame", sent)
  | (.other, _) :: rest => jobLoop sent rest
  | (.failed error, _) :: _ => (some ("websocket read error: " ++ error), sent)
  | (.ended, _) :: _ => (some "gateway closed connection", sent)

end Jobs

/-! ### Answers -/

/-- The messages that answer a job. -/
def reply : GatewayToWorker × JobWork → List WorkerMessage
  | (.job _ .chat _, work) => Gateway.processChatJob work.inference
  | (.job _ .transcription _, work) => Gateway.processTranscriptionJob work.whisper

section Reads

variable (parse : String → Except String GatewayToWorker)

/-- The jobs that are read before a connection ends. -/
def takenJobs : List (SocketRead × JobWork) → List (GatewayToWorker × JobWork)
  | (.text text, work) :: rest =>
      match parse text with
      | .ok job => (job, work) :: takenJobs rest
      | .error _ => []
  | (.other, _) :: rest => takenJobs rest
  | _ => []

/-- Why the reads end a connection, if they do. -/
def readsEnd : List (SocketRead × JobWork) → Option String
  | [] => none
  | (.text text, _) :: rest =>
      match parse text with
      | .ok _ => readsEnd rest
      | .error error => some ("failed to parse job message: " ++ error)
  | (.close, _) :: _ => some "gateway sent close frame"
  | (.other, _) :: rest => readsEnd rest
  | (.failed error, _) :: _ => some ("websocket read error: " ++ error)
  | (.ended, _) :: _ => some "gateway closed connection"

end Reads

def inferenceError : List (Except InferenceError Value) → Option String
  | [] => none
  | .ok _ :: rest => inferenceError rest
  | .error error :: _ => some ("inference error: " ++ error.toText)

/-- What the job loop hears of a job whose messages were all sent. -/
def jobError : GatewayToWorker × JobWork → Option String
  | (.job _ .chat _, work) => inferenceError work.inference
  | (.job _ .transcription _, work) =>
      match work.whisper with
      | none => some "transcription not configured"
      | some (.ok _) => none
      | some (.error error) => some ("transcription error: " ++ error.toText)

/-- An error after all messages were sent. -/
def report (sent : List WorkerMessage) :
    Option String → Except (String × List WorkerMessage) (List WorkerMessage)
  | none => .ok sent
  | some message => .error (message, sent)

section Loop

variable {fate : Nat → Except String Unit}

/-- The channel with its errors as the job loop hears them. -/
def marked (fate : Nat → Except String Unit) (n : Nat) : Except String Unit :=
  (fate n).mapError ("websocket send error: " ++ ·)

/-- Marking the errors of the websocket accepts what the websocket accepts. -/
theorem marked_eq_ok_iff {n : Nat} : marked fate n = .ok () ↔ fate n = .ok () := by
  unfold marked
  cases fate n <;> simp [Except.mapError]

/-- A marked error is an error of the websocket behind its mark. -/
theorem marked_eq_error_iff {n : Nat} {message : String} :
    marked fate n = .error message ↔
      ∃ error, fate n = .error error ∧ message = "websocket send error: " ++ error := by
  unfold marked
  cases fate n <;> simp [Except.mapError, eq_comm]

/-- A chat job sends the messages of its stream as far as they can be sent, and reports the
backend's error if they all could. -/
theorem processChatJob_eq (results : List (Except InferenceError Value))
    (sent : List WorkerMessage) :
    processChatJob fate sent results =
      sendAll (marked fate) sent (Gateway.processChatJob results) >>= fun sent =>
        report sent (inferenceError results) := by
  induction results generalizing sent with
  | nil =>
      rw [Gateway.processChatJob, sendAll_singleton]
      exact (bind_pure _).symm
  | cons result rest ih =>
      cases result with
      | ok data =>
          rw [Gateway.processChatJob, sendAll, bind_assoc]
          exact bind_congr ih
      | error error =>
          rw [Gateway.processChatJob, sendAll_singleton]
          rfl

/-- A transcription job sends its messages as far as they can be sent, and reports the backend's
error if they all could. -/
theorem processTranscriptionJob_eq (result : Option (Except TranscriptionError Value))
    (inference : List (Except InferenceError Value)) (id : String) (payload : Value)
    (sent : List WorkerMessage) :
    processTranscriptionJob fate sent result =
      sendAll (marked fate) sent (Gateway.processTranscriptionJob result) >>= fun sent =>
        report sent (jobError (.job id .transcription payload, ⟨inference, result⟩)) := by
  rcases result with _ | error | data
  · rw [Gateway.processTranscriptionJob, sendAll_singleton]
    rfl
  · rw [Gateway.processTranscriptionJob, sendAll_singleton]
    rfl
  · rw [Gateway.processTranscriptionJob, sendAll, bind_assoc]
    refine bind_congr fun sent => ?_
    rw [sendAll_singleton]
    exact (bind_pure _).symm

/-- A job sends its answer, and then may have an error to report. -/
theorem processJob_eq (job : GatewayToWorker) (work : JobWork) (sent : List WorkerMessage) :
    processJob fate sent job work =
      sendAll (marked fate) sent (reply (job, work)) >>= fun sent =>
        report sent (jobError (job, work)) := by
  obtain ⟨id, capability, payload⟩ := job
  cases capability with
  | chat => exact processChatJob_eq work.inference sent
  | transcription => exact processTranscriptionJob_eq work.whisper work.inference id payload sent

/-- A marked error is taken for an error of the websocket. -/
theorem isSendError_marked (error : String) :
    isSendError ("websocket send error: " ++ error) = true := by
  unfold isSendError
  rw [List.isPrefixOf_iff_prefix, String.toList_append]
  exact ⟨": ".toList ++ error.toList, by rw [← List.append_assoc]; rfl⟩

/-- A text that begins with another letter is not taken for one. -/
theorem isSendError_other {start : String} {c : Char} {rest : List Char}
    (starts : start.toList = c :: rest) (different : c ≠ 'w') (text : String) :
    isSendError (start ++ text) = false := by
  unfold isSendError
  rw [String.toList_append, starts]
  exact Bool.and_eq_false_iff.mpr (.inl (beq_eq_false_iff_ne.mpr different.symm))

/-- No error of the inference server is taken for an error of the websocket. -/
theorem isSendError_inferenceError {results : List (Except InferenceError Value)} {message : String}
    (reported : inferenceError results = some message) : isSendError message = false := by
  induction results with
  | nil => cases reported
  | cons result rest ih =>
      cases result with
      | ok data => exact ih reported
      | error error =>
          obtain rfl := Option.some.inj reported
          exact isSendError_other rfl (by decide) _

/-- No error that a job reports is taken for a failed connection, whatever the backends say. -/
theorem isSendError_jobError {taken : GatewayToWorker × JobWork} {message : String}
    (reported : jobError taken = some message) : isSendError message = false := by
  obtain ⟨⟨id, capability, payload⟩, inference, whisper⟩ := taken
  cases capability with
  | chat => exact isSendError_inferenceError reported
  | transcription =>
      rcases whisper with _ | error | data
      · obtain rfl := Option.some.inj reported
        rfl
      · obtain rfl := Option.some.inj reported
        exact isSendError_other rfl (by decide) _
      · cases reported

end Loop

/-! ### Connections

On a connection a job's messages are sent one by one; the first that is refused ends the connection,
and everything before it has been sent. -/

/-- How a connection goes, given how its jobs were answered. -/
def connectionEnd (ended : Option String) :
    Except (String × List WorkerMessage) (List WorkerMessage) → Option String × List WorkerMessage
  | .ok sent => (ended, sent)
  | .error (message, sent) => (some message, sent)

section Loop

variable {fate : Nat → Except String Unit} {parse : String → Except String GatewayToWorker}

/-- The loop over the jobs delivers their answers one after the other, and returns when a message
cannot be sent or the reads end; by induction on what is read. -/
theorem jobLoop_delivers (reads : List (SocketRead × JobWork)) {done : List WorkerMessage}
    (accepted : ∀ n < done.length, marked fate n = .ok ()) :
    ∃ result,
      Delivers (marked fate) (done ++ (takenJobs parse reads).flatMap reply) result ∧
        jobLoop fate parse done reads = connectionEnd (readsEnd parse reads) result := by
  have nothing : Delivers (marked fate) (done ++ []) (.ok done) := by
    rw [List.append_nil]
    exact .whole accepted
  induction reads generalizing done with
  | nil => exact ⟨_, nothing, rfl⟩
  | cons first rest ih =>
      obtain ⟨read, work⟩ := first
      cases read with
      | other => exact ih accepted nothing
      | close => exact ⟨_, nothing, rfl⟩
      | failed error => exact ⟨_, nothing, rfl⟩
      | ended => exact ⟨_, nothing, rfl⟩
      | text text =>
          rw [jobLoop, takenJobs, readsEnd]
          cases parse text with
          | error error => exact ⟨_, nothing, rfl⟩
          | ok job =>
              simp only [processJob_eq]
              have delivers := sendAll_delivers (reply (job, work)) accepted
              cases answered : sendAll (marked fate) done (reply (job, work)) with
              | error failure =>
                  rw [answered] at delivers
                  have more := delivers.extend ((takenJobs parse rest).flatMap reply)
                  rw [List.append_assoc] at more
                  refine ⟨_, more, ?_⟩
                  cases delivers with
                  | cut _ failed _ _ =>
                      obtain ⟨error, _, rfl⟩ := marked_eq_error_iff.mp failed
                      exact if_pos (isSendError_marked error)
              | ok sent =>
                  rw [answered] at delivers
                  cases delivers with
                  | whole accepted =>
                      have goesOn := ih accepted (by rw [List.append_nil]; exact .whole accepted)
                      rw [List.append_assoc] at goesOn
                      obtain ⟨result, delivered, loop⟩ := goesOn
                      refine ⟨result, delivered, ?_⟩
                      cases reported : jobError (job, work) with
                      | none => exact loop
                      | some message =>
                          have stays := isSendError_jobError reported
                          exact (if_neg (by rw [stays]; exact Bool.false_ne_true)).trans loop

end Loop

def numbered (serial : Nat) : GatewayToWorker → NumberedJob String
  | .job clientStreamId capability payload => { serial, clientStreamId, capability, payload }

/-- An answer is a whole run of the program that its job starts. -/
theorem reply_sends (job : GatewayToWorker) (work : JobWork) (serial : Nat) :
    (reply (job, work)).foldlM WorkerPhase.send (startJob (numbered serial job)) =
      some .waiting := by
  obtain ⟨id, capability, payload⟩ := job
  cases capability with
  | chat => exact Gateway.processChatJob_sends work.inference serial
  | transcription => exact Gateway.processTranscriptionJob_sends work.whisper serial

/-- A connection on which the worker took jobs: what it sent, and why it gave the connection up. -/
structure Serves (fate : Nat → Except String Unit) (taken : List (GatewayToWorker × JobWork))
    (ended : Option String) (reason : Option String) (sent : List WorkerMessage) : Prop where
  /-- The jobs are answered one after the other. -/
  inTurn : sent <+: taken.flatMap reply
  /-- Each answer is what the other end may expect of a worker. -/
  programs : ∀ job ∈ taken, ∀ serial,
    (reply job).foldlM WorkerPhase.send (startJob (numbered serial job.1)) = some .waiting
  accepted : ∀ n < sent.length, fate n = .ok ()
  /-- With all jobs answered, only what is read ends the connection. -/
  whole : sent = taken.flatMap reply → reason = ended
  /-- An answer breaks off only where a message could not be sent, and the connection with it. -/
  cut : sent ≠ taken.flatMap reply →
    ∃ error, fate sent.length = .error error ∧ reason = some ("websocket send error: " ++ error)

/-- On one connection the job loop serves as it should. -/
theorem jobLoop_serves (fate : Nat → Except String Unit)
    (parse : String → Except String GatewayToWorker) (reads : List (SocketRead × JobWork)) :
    Serves fate (takenJobs parse reads) (readsEnd parse reads) (jobLoop fate parse [] reads).1
      (jobLoop fate parse [] reads).2 := by
  obtain ⟨result, delivers, loop⟩ := @jobLoop_delivers fate parse reads [] (by simp)
  rw [List.nil_append] at delivers
  rw [loop]
  cases delivers with
  | whole accepted =>
      exact {
        inTurn := List.prefix_rfl
        programs := fun job _ => reply_sends job.1 job.2
        accepted := fun n bound => marked_eq_ok_iff.mp (accepted n bound)
        whole := fun _ => rfl
        cut := fun notAll => absurd rfl notAll }
  | cut accepted failed notAll inTurn =>
      refine {
        inTurn := ⟨_, inTurn⟩
        programs := fun job _ => reply_sends job.1 job.2
        accepted := fun n bound => marked_eq_ok_iff.mp (accepted n bound)
        whole := ?_
        cut := ?_ }
      · intro all
        exact absurd (List.append_right_eq_self.mp (inTurn.trans all.symm)) notAll
      · intro _
        obtain ⟨error, broken, rfl⟩ := marked_eq_error_iff.mp failed
        exact ⟨error, broken, rfl⟩

/-! ### The worker

Attempts follow one another; after each that failed the worker waits, and the waits are those of the
shared policy. -/

/-- In seconds. -/
def backoffInitial : Nat := 1

def backoffMax : Nat := 30

/-- An attempt to connect: the request cannot be built, the connection cannot be opened, or it is
open, and `fate` and `reads` tell how it goes. -/
inductive Attempt where
  | requestFailed (error : String)
  | connectFailed (error : String)
  | connected (fate : Nat → Except String Unit) (reads : List (SocketRead × JobWork))

/-- What came of an attempt, and how long the worker waited after it, if it did. -/
structure Tried where
  connected : Bool
  reason : Option String
  sent : List WorkerMessage
  waited : Option Nat
deriving DecidableEq, Repr

section Run

variable (parse : String → Except String GatewayToWorker)

/-- The worker makes its attempts, and stays on a connection whose job loop does not return. -/
def runFrom (backoff : Nat) : List Attempt → List Tried
  | [] => []
  | .requestFailed error :: rest =>
      { connected := false, reason := some error, sent := [], waited := some backoff } ::
        runFrom (min (backoff * 2) backoffMax) rest
  | .connectFailed error :: rest =>
      { connected := false, reason := some error, sent := [], waited := some backoff } ::
        runFrom (min (backoff * 2) backoffMax) rest
  | .connected fate reads :: rest =>
      match jobLoop fate parse [] reads with
      | (none, sent) => [{ connected := true, reason := none, sent, waited := none }]
      | (some reason, sent) =>
          { connected := true, reason := some reason, sent, waited := some backoffInitial } ::
            runFrom (min (backoffInitial * 2) backoffMax) rest

def run (attempts : List Attempt) : List Tried :=
  runFrom parse backoffInitial attempts

end Run

/-- The waits since the worker was last connected, after one more attempt. -/
def addWait (waits : List Nat) (tried : Tried) : List Nat :=
  (if tried.connected then [] else waits) ++ tried.waited.toList

/-- What an attempt leads to. -/
inductive Leads (parse : String → Except String GatewayToWorker) : Attempt → Tried → Prop where
  | requestFailed (error : String) (waited : Nat) :
      Leads parse (.requestFailed error) ⟨false, some error, [], some waited⟩
  | connectFailed (error : String) (waited : Nat) :
      Leads parse (.connectFailed error) ⟨false, some error, [], some waited⟩
  /-- The worker waits unless it is still on the connection. -/
  | connected {fate : Nat → Except String Unit} {reads : List (SocketRead × JobWork)}
      {tried : Tried} (open_ : tried.connected = true)
      (serves : Serves fate (takenJobs parse reads) (readsEnd parse reads) tried.reason tried.sent)
      (waits : tried.waited.isSome = tried.reason.isSome) :
      Leads parse (.connected fate reads) tried

/-- What a worker does in any number of attempts. -/
structure Works (parse : String → Except String GatewayToWorker) (attempts : List Attempt)
    (record : List Tried) : Prop where
  leads : List.Forall₂ (Leads parse) (attempts.take record.length) record
  /-- Attempts are left over only behind a connection on which the worker still is. -/
  stays : record.length < attempts.length → ∃ tried ∈ record.getLast?, tried.reason = none
  /-- The waits double from the first one after a connection on, up to the longest. -/
  waits : ∃ count, record.foldl addWait [] = backoffDelays backoffInitial backoffMax count

section Run

variable {parse : String → Except String GatewayToWorker}

/-- Each attempt leads to what it should, whatever the wait before it; by induction on the attempts.
-/
theorem runFrom_leads (attempts : List Attempt) (backoff : Nat) :
    List.Forall₂ (Leads parse) (attempts.take (runFrom parse backoff attempts).length)
      (runFrom parse backoff attempts) := by
  induction attempts generalizing backoff with
  | nil => exact .nil
  | cons attempt rest ih =>
      cases attempt with
      | requestFailed error => exact .cons (.requestFailed error backoff) (ih _)
      | connectFailed error => exact .cons (.connectFailed error backoff) (ih _)
      | connected fate reads =>
          have serves := jobLoop_serves fate parse reads
          rw [runFrom]
          cases loop : jobLoop fate parse [] reads with
          | mk reason sent =>
              rw [loop] at serves
              cases reason with
              | none => exact .cons (.connected rfl serves rfl) .nil
              | some reason => exact .cons (.connected rfl serves rfl) (ih _)

/-- Attempts are left over only behind a connection that goes on. -/
theorem runFrom_stays (attempts : List Attempt) (backoff : Nat)
    (left : (runFrom parse backoff attempts).length < attempts.length) :
    ∃ tried ∈ (runFrom parse backoff attempts).getLast?, tried.reason = none := by
  have behind : ∀ {first : Tried} {later : List Tried},
      (∃ tried ∈ later.getLast?, tried.reason = none) →
        ∃ tried ∈ (first :: later).getLast?, tried.reason = none := by
    rintro first later ⟨tried, last, still⟩
    exact ⟨tried, by rw [List.getLast?_cons, last]; rfl, still⟩
  induction attempts generalizing backoff with
  | nil => exact absurd left (Nat.lt_irrefl 0)
  | cons attempt rest ih =>
      cases attempt with
      | requestFailed error => exact behind (ih _ (Nat.lt_of_succ_lt_succ left))
      | connectFailed error => exact behind (ih _ (Nat.lt_of_succ_lt_succ left))
      | connected fate reads =>
          rw [runFrom] at left ⊢
          cases loop : jobLoop fate parse [] reads with
          | mk reason sent =>
              rw [loop] at left
              cases reason with
              | none => exact ⟨_, rfl, rfl⟩
              | some reason => exact behind (ih _ (Nat.lt_of_succ_lt_succ left))

/-- The worker begins with the first delay of the policy. -/
theorem backoffDelay_initial : backoffDelay backoffInitial backoffMax 0 = backoffInitial :=
  backoffDelay_zero (by decide)

/-- The waits since the last connection are the first delays of the policy; by induction on the
attempts, with the next delay as the invariant. -/
theorem runFrom_waits (attempts : List Attempt) {backoff count : Nat} {waits : List Nat}
    (delays : waits = backoffDelays backoffInitial backoffMax count)
    (next : backoff = backoffDelay backoffInitial backoffMax count) :
    ∃ count, (runFrom parse backoff attempts).foldl addWait waits =
      backoffDelays backoffInitial backoffMax count := by
  induction attempts generalizing backoff count waits with
  | nil => exact ⟨count, delays⟩
  | cons attempt rest ih =>
      have again : ∃ count, (runFrom parse (min (backoff * 2) backoffMax) rest).foldl addWait
          (waits ++ [backoff]) = backoffDelays backoffInitial backoffMax count := by
        apply @ih _ (count + 1)
        · rw [backoffDelays_succ, delays, next]
        · rw [backoffDelay_succ, next]
      cases attempt with
      | requestFailed error => exact again
      | connectFailed error => exact again
      | connected fate reads =>
          rw [runFrom]
          cases loop : jobLoop fate parse [] reads with
          | mk reason sent =>
              cases reason with
              | none => exact ⟨0, rfl⟩
              | some reason =>
                  apply @ih _ 1
                  · rw [backoffDelays_succ, backoffDelay_initial]
                    rfl
                  · rw [backoffDelay_succ, backoffDelay_initial]

end Run

/-- On every connection a worker answers the jobs in turn, up to the first message that cannot be
sent; no answer of its backends makes it leave the connection; and between its attempts it waits as
the shared policy would have it. -/
theorem worker_serves (parse : String → Except String GatewayToWorker) (attempts : List Attempt) :
    Works parse attempts (run parse attempts) where
  leads := runFrom_leads attempts backoffInitial
  stays := runFrom_stays attempts backoffInitial
  waits := @runFrom_waits parse attempts _ 0 [] rfl backoffDelay_initial.symm

end ProstheticConscience.Worker
