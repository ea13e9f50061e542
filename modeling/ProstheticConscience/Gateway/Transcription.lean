/-
Module: ProstheticConscience.Gateway.Transcription
Purpose: A transcription from end to end: the form of the request, the payload of the job, the
  request to the whisper server that the worker reads from it, the worker's messages, and the
  response that the gateway collects.
Trusted boundary: the base64 codec, reading and converting floats, the whisper server and its parser
  are parameters
Main exports: FormField, TranscriptionForm, readForm, transcriptionPayload, parseRequest,
  parseResponse, transcribe, collectResponse, readForm_eq_ok_iff, parseRequest_payload,
  transcription_delivers, transcriptions_answered
-/
import ProstheticConscience.Gateway.ChatStream

namespace ProstheticConscience.Gateway

/-! ### The form -/

/-- A field of a form: its name and file name, what reading its bytes results in, and its text, if
it can be read. -/
structure FormField where
  name : Option String
  fileName : Option String
  bytes : Except String (List UInt8)
  text : Option String

/-- What the request handler keeps of a form. -/
structure TranscriptionForm where
  file : Option (List UInt8 × String)
  model : Option String
  language : Option String
  prompt : Option String
  responseFormat : Option String
  /-- The bits of the float. -/
  temperature : Option Nat
deriving DecidableEq, Repr

def TranscriptionForm.empty : TranscriptionForm where
  file := none
  model := none
  language := none
  prompt := none
  responseFormat := none
  temperature := none

def maxFileSize : Nat := 25 * 1024 * 1024

/-- The default for a file without a name, in the gateway and in the worker. -/
def defaultFileName : String := "audio.wav"

section Form

variable (parseFloat : String → Option Nat)

/-- The handler takes in a field.  A field that is not understood is ignored, and so is a text that
cannot be read; a temperature that is no number takes away an earlier one. -/
def TranscriptionForm.absorb (form : TranscriptionForm) (field : FormField) :
    Except String TranscriptionForm :=
  if field.name = some "file" then
    match field.bytes with
    | .error error => .error ("failed to read file: " ++ error)
    | .ok bytes =>
        if maxFileSize < bytes.length then .error "file exceeds 25 MB limit"
        else .ok { form with file := some (bytes, field.fileName.getD defaultFileName) }
  else if field.name = some "model" then .ok { form with model := field.text.or form.model }
  else if field.name = some "language" then
    .ok { form with language := field.text.or form.language }
  else if field.name = some "prompt" then .ok { form with prompt := field.text.or form.prompt }
  else if field.name = some "response_format" then
    .ok { form with responseFormat := field.text.or form.responseFormat }
  else if field.name = some "temperature" then
    .ok { form with temperature := (field.text.map parseFloat).getD form.temperature }
  else .ok form

/-- The loop over the fields of a form. -/
def readForm (fields : List FormField) : Except String TranscriptionForm :=
  fields.foldlM (TranscriptionForm.absorb parseFloat) .empty

end Form

/-- The exponent is not that of the infinite floats and of those that are no numbers. -/
def isFinite (bits : Nat) : Bool :=
  bits / 2 ^ 52 % 2048 ≠ 2047

/-- A float is written as a number, or as null. -/
def floatValue (bits : Nat) : Value :=
  if isFinite bits then .number (.float bits) else .null

/-- A member that is left out without a value. -/
def optionalValue (key : String) (value : Option Value) : List (String × Value) :=
  (value.map fun value => (key, value)).toList

/-- The payload of the job, or what the form lacks. -/
def transcriptionPayload (encode : List UInt8 → String) (form : TranscriptionForm) :
    Except String Value :=
  match form.file, form.model with
  | none, _ => .error "missing required field: file"
  | some _, none => .error "missing required field: model"
  | some (bytes, fileName), some model =>
      .ok (.ofMembers (
        [("audio_base64", .string (encode bytes)), ("model", .string model),
          ("file_name", .string fileName)] ++
        optionalValue "language" (form.language.map .string) ++
        optionalValue "prompt" (form.prompt.map .string) ++
        optionalValue "response_format" (form.responseFormat.map .string) ++
        optionalValue "temperature" (form.temperature.map floatValue)))

/-- The payload of the job for a form, or what is wrong with it. -/
def audioTranscriptions (parseFloat : String → Option Nat) (encode : List UInt8 → String)
    (fields : List FormField) : Except String Value :=
  readForm parseFloat fields >>= transcriptionPayload encode

/-! ### The worker -/

/-- A transcription request as the worker makes it. -/
structure TranscriptionRequest where
  audioBytes : List UInt8
  fileName : String
  mimeType : String
  model : String
  language : Option String
  prompt : Option String
  responseFormat : Option String
  temperature : Option Nat
deriving DecidableEq, Repr

inductive TranscriptionError where
  | missingField (field : String)
  | invalidBase64 (error : String)
  | invalidTemperature
  | emptyAudio
  | httpError (error : String)
  | serverError (status : Nat) (body : String)
  | invalidResponse (error : String)
deriving DecidableEq, Repr

def TranscriptionError.toText : TranscriptionError → String
  | .missingField field => "missing required field: " ++ field
  | .invalidBase64 error => "invalid base64 in audio_base64: " ++ error
  | .invalidTemperature => "temperature must be a number"
  | .emptyAudio => "audio data is empty"
  | .httpError error => "whisper server request failed: " ++ error
  | .serverError status body => "whisper server returned status " ++ toString status ++ ": " ++ body
  | .invalidResponse error => "invalid response from whisper server: " ++ error

/-- The last part of a file name between dots, or all of it, names its type. -/
def mimeTypeForFilename (fileName : String) : String :=
  let extension := (fileName.toList.splitOn '.').getLastD []
  if extension = "wav".toList then "audio/wav"
  else if extension = "webm".toList then "audio/webm"
  else if extension = "mp4".toList ∨ extension = "m4a".toList then "audio/mp4"
  else if extension = "ogg".toList ∨ extension = "oga".toList then "audio/ogg"
  else if extension = "flac".toList then "audio/flac"
  else if extension = "mp3".toList then "audio/mpeg"
  else "application/octet-stream"

example : ["clip.m4a", "a.b.wav", "ogg", "noise"].map mimeTypeForFilename =
    ["audio/mp4", "audio/wav", "audio/ogg", "application/octet-stream"] := by decide +kernel

def textMember (payload : Value) (key : String) : Option String :=
  (payload.get key).bind Value.asStr

section Request

variable (decode : String → Except String (List UInt8)) (asF64 : Number → Nat)

/-- A missing temperature may be null. -/
def readTemperature : Option Value → Except TranscriptionError (Option Nat)
  | none => .ok none
  | some .null => .ok none
  | some (.number number) => .ok (some (asF64 number))
  | some _ => .error .invalidTemperature

def parseRequest (payload : Value) : Except TranscriptionError TranscriptionRequest := do
  let audioBase64 ← (textMember payload "audio_base64").elim
    (.error (.missingField "audio_base64")) .ok
  let audioBytes ← (decode audioBase64).mapError .invalidBase64
  if audioBytes.isEmpty then throw .emptyAudio
  let model ← (textMember payload "model").elim (.error (.missingField "model")) .ok
  let fileName := (textMember payload "file_name").getD defaultFileName
  let temperature ← readTemperature asF64 (payload.get "temperature")
  return {
    audioBytes
    fileName
    mimeType := mimeTypeForFilename fileName
    model
    language := textMember payload "language"
    prompt := textMember payload "prompt"
    responseFormat := textMember payload "response_format"
    temperature }

end Request

/-- The longest start of a text that fits into some bytes. -/
def floorPrefix : Nat → List Char → List Char
  | _, [] => []
  | bytes, c :: rest =>
      if c.utf8Size ≤ bytes then c :: floorPrefix (bytes - c.utf8Size) rest else []

def utf8Length (text : List Char) : Nat :=
  (text.map Char.utf8Size).sum

/-- Truncate a text between two characters, and mark where it was cut. -/
def truncateStr (text : List Char) (maxLength : Nat) : List Char :=
  if utf8Length text ≤ maxLength then text else floorPrefix maxLength text ++ "...".toList

def maxErrorBodyLength : Nat := 512

def maxPreviewLength : Nat := 200

/-- A response of the whisper server as a result. -/
def parseResponse (fromSlice : List UInt8 → Except String Value) (status : Nat)
    (body : List UInt8) : Except TranscriptionError Value :=
  let text := fromUtf8Lossy body
  if status ≠ 200 then
    .error (.serverError status (.ofList (truncateStr text maxErrorBodyLength)))
  else
    (fromSlice body).mapError fun error =>
      .invalidResponse
        (error ++ " (body: " ++ .ofList (truncateStr text maxPreviewLength) ++ ")")

/-- The status and the body that the whisper server answers with, or why there are none. -/
abbrev WhisperServer := TranscriptionRequest → Except String (Nat × List UInt8)

section Transcribe

variable (fromSlice : List UInt8 → Except String Value) (server : WhisperServer)

/-- The request is put to the server. -/
def askServer (request : TranscriptionRequest) : Except TranscriptionError Value :=
  match server request with
  | .error error => .error (.httpError error)
  | .ok (status, body) => parseResponse fromSlice status body

def transcribe (decode : String → Except String (List UInt8)) (asF64 : Number → Nat)
    (payload : Value) : Except TranscriptionError Value :=
  parseRequest decode asF64 payload >>= askServer fromSlice server

end Transcribe

/-- The messages of a transcription job; without a whisper server it is not configured. -/
def processTranscriptionJob : Option (Except TranscriptionError Value) → List WorkerMessage
  | none => [.error "transcription not configured on this worker"]
  | some (.ok data) => [.chunk data, .end]
  | some (.error error) => [.error error.toText]

/-- The job loop may send these messages, one after the other, and is done with the job then. -/
theorem processTranscriptionJob_sends (result : Option (Except TranscriptionError Value))
    (serial : Nat) :
    (processTranscriptionJob result).foldlM WorkerPhase.send (.transcribing serial) =
      some .waiting := by
  rcases result with _ | _ | _ <;> rfl

/-! ### The response -/

/-- Collect the frames into a value: the last chunk, once it is done. -/
def collectResponse : Option Value → List StreamFrame → Except String Value
  | result, [] => result.elim (.error "worker disconnected without response") .ok
  | _, .chunk data :: rest => collectResponse (some data) rest
  | result, .done :: _ => result.elim (.error "worker sent done without data") .ok
  | _, .error message :: _ => .error message

structure HttpResponse where
  status : Nat
  body : Value
deriving DecidableEq

/-- The response to what was collected. -/
def transcriptionResponse : Except String Value → HttpResponse
  | .ok data => { status := 200, body := data }
  | .error message => { status := 500, body := errorResponse message }

/-! ### What a form says -/

/-- The file of a field, if its bytes can be read. -/
def FormField.file? (field : FormField) : Option (List UInt8 × String) :=
  match field.bytes with
  | .ok bytes => some (bytes, field.fileName.getD defaultFileName)
  | .error _ => none

/-- The last file of a form. -/
def lastFile (fields : List FormField) : Option (List UInt8 × String) :=
  ((fields.filter fun field => field.name = some "file").filterMap FormField.file?).getLast?

/-- The last text of a form under a name. -/
def lastText (name : String) (fields : List FormField) : Option String :=
  ((fields.filter fun field => field.name = some name).filterMap FormField.text).getLast?

def formOf (parseFloat : String → Option Nat) (fields : List FormField) : TranscriptionForm where
  file := lastFile fields
  model := lastText "model" fields
  language := lastText "language" fields
  prompt := lastText "prompt" fields
  responseFormat := lastText "response_format" fields
  temperature := (lastText "temperature" fields).bind parseFloat

/-- A file has to be read, and to be no larger than allowed. -/
def FormField.Accepted (field : FormField) : Prop :=
  field.name = some "file" → ∃ bytes, field.bytes = .ok bytes ∧ bytes.length ≤ maxFileSize

theorem lastFile_concat (fields : List FormField) (field : FormField) :
    lastFile (fields ++ [field]) =
      if field.name = some "file" then field.file?.or (lastFile fields) else lastFile fields := by
  unfold lastFile
  rw [List.filter_append, List.filterMap_append, List.getLast?_append]
  by_cases named : field.name = some "file"
  · cases file : field.file? <;> simp [named, file]
  · simp [named]

theorem lastText_concat (name : String) (fields : List FormField) (field : FormField) :
    lastText name (fields ++ [field]) =
      if field.name = some name then field.text.or (lastText name fields)
      else lastText name fields := by
  unfold lastText
  rw [List.filter_append, List.filterMap_append, List.getLast?_append]
  by_cases named : field.name = some name
  · cases text : field.text <;> simp [named, text]
  · simp [named]

/-- A field that is no file is taken in. -/
theorem absorb_text (parseFloat : String → Option Nat) (fields : List FormField)
    {field : FormField} (noFile : field.name ≠ some "file") :
    (formOf parseFloat fields).absorb parseFloat field =
      .ok (formOf parseFloat (fields ++ [field])) := by
  have concat := And.intro (lastFile_concat fields field) fun name =>
    lastText_concat name fields field
  by_cases model : field.name = some "model"
  · simp [TranscriptionForm.absorb, formOf, concat, model]
  by_cases language : field.name = some "language"
  · simp [TranscriptionForm.absorb, formOf, concat, language]
  by_cases prompt : field.name = some "prompt"
  · simp [TranscriptionForm.absorb, formOf, concat, prompt]
  by_cases format : field.name = some "response_format"
  · simp [TranscriptionForm.absorb, formOf, concat, format]
  by_cases temperature : field.name = some "temperature"
  · cases text : field.text <;> simp [TranscriptionForm.absorb, formOf, concat, temperature, text]
  simp [TranscriptionForm.absorb, formOf, concat, noFile, model, language, prompt, format,
    temperature]

/-- A form that says what the fields so far say comes to say what the next one written. -/
theorem absorb_formOf (parseFloat : String → Option Nat) (fields : List FormField)
    (field : FormField) (form : TranscriptionForm) :
    (formOf parseFloat fields).absorb parseFloat field = .ok form ↔
      field.Accepted ∧ form = formOf parseFloat (fields ++ [field]) := by
  by_cases isFile : field.name = some "file"
  · have grown : formOf parseFloat (fields ++ [field]) =
        { formOf parseFloat fields with file := field.file?.or (lastFile fields) } := by
      simp [formOf, lastFile_concat, lastText_concat, isFile]
    rw [grown, TranscriptionForm.absorb, if_pos isFile]
    cases read : field.bytes with
    | error error => simp [FormField.Accepted, isFile, read]
    | ok bytes =>
        by_cases large : maxFileSize < bytes.length
        · simp [FormField.Accepted, isFile, read, large]
        · simp [FormField.Accepted, FormField.file?, isFile, read, large, Nat.le_of_not_lt large,
            eq_comm]
  · rw [absorb_text parseFloat fields isFile, Except.ok.injEq]
    simp [FormField.Accepted, isFile, eq_comm]

theorem readForm_eq_ok_iff (parseFloat : String → Option Nat) (fields : List FormField)
    (form : TranscriptionForm) :
    readForm parseFloat fields = .ok form ↔
      (∀ field ∈ fields, field.Accepted) ∧ form = formOf parseFloat fields := by
  induction fields using List.reverseRecOn generalizing form with
  | nil => simp [readForm, formOf, lastFile, lastText, TranscriptionForm.empty, pure, Except.pure,
      eq_comm]
  | append_singleton fields field ih =>
      have step : readForm parseFloat (fields ++ [field]) =
          readForm parseFloat fields >>= fun form => form.absorb parseFloat field := by
        simp [readForm, List.foldlM_append]
      rw [step]
      simp only [List.forall_mem_append, List.forall_mem_singleton]
      cases before : readForm parseFloat fields with
      | error error =>
          have refused : ¬∀ field ∈ fields, field.Accepted := by
            intro accepted
            rw [(ih _).mpr ⟨accepted, rfl⟩] at before
            cases before
          refine iff_of_false (fun same => by cases same) fun both => refused both.1.1
      | ok earlier =>
          obtain ⟨accepted, rfl⟩ := (ih earlier).mp before
          have next := absorb_formOf parseFloat fields field form
          rw [and_iff_right accepted]
          exact next

/-! ### What the worker reads -/

theorem lookup_optionalValue (name key : String) (value : Option Value) :
    (optionalValue name value).reverse.lookup key = if key = name then value else none := by
  cases value with
  | none => simp [optionalValue]
  | some value =>
      rw [optionalValue, Option.map_some, Option.toList_some, List.reverse_singleton,
        Value.lookup_member]
      rfl

/-- The request that a form stands for. -/
def requestOf (form : TranscriptionForm) (file : List UInt8 × String) (model : String) :
    TranscriptionRequest where
  audioBytes := file.1
  fileName := file.2
  mimeType := mimeTypeForFilename file.2
  model := model
  language := form.language
  prompt := form.prompt
  responseFormat := form.responseFormat
  temperature := form.temperature.filter isFinite

section Arrival

variable {encode : List UInt8 → String} {decode : String → Except String (List UInt8)}
  {asF64 : Number → Nat}

theorem readTemperature_floatValue (exact : ∀ bits, asF64 (.float bits) = bits)
    (temperature : Option Nat) :
    readTemperature asF64 (temperature.map floatValue) =
      .ok (temperature.filter isFinite) := by
  cases temperature with
  | none => rfl
  | some bits =>
      rw [Option.map_some, floatValue]
      cases finite : isFinite bits with
      | true => simp [readTemperature, Option.filter, finite, exact]
      | false => simp [readTemperature, Option.filter, finite]

/-- What the members of the payload of a form are. -/
structure PayloadOf (encode : List UInt8 → String) (form : TranscriptionForm)
    (file : List UInt8 × String) (model : String) (payload : Value) : Prop where
  audio : textMember payload "audio_base64" = some (encode file.1)
  model : textMember payload "model" = some model
  fileName : textMember payload "file_name" = some file.2
  language : textMember payload "language" = form.language
  prompt : textMember payload "prompt" = form.prompt
  responseFormat : textMember payload "response_format" = form.responseFormat
  temperature : payload.get "temperature" = form.temperature.map floatValue

theorem transcriptionPayload_eq_ok (encode : List UInt8 → String) {form : TranscriptionForm}
    {file : List UInt8 × String} {model : String} (hasFile : form.file = some file)
    (hasModel : form.model = some model) :
    ∃ payload, transcriptionPayload encode form = .ok payload ∧
      PayloadOf encode form file model payload := by
  obtain ⟨bytes, fileName⟩ := file
  have text : ∀ value : Option String, (value.map Value.string).bind Value.asStr = value := by
    intro value
    cases value <;> rfl
  rw [transcriptionPayload, hasFile, hasModel]
  refine ⟨_, rfl, ?_, ?_, ?_, ?_, ?_, ?_, ?_⟩ <;>
    simp [textMember, Value.get_ofMembers, List.lookup_append, lookup_optionalValue,
      Value.lookup_member, text]

/-- The worker reads from the payload what the form says, if there is any audio. -/
theorem parseRequest_payload (codec : ∀ bytes, decode (encode bytes) = .ok bytes)
    (exact : ∀ bits, asF64 (.float bits) = bits) {form : TranscriptionForm}
    {file : List UInt8 × String} {model : String} {payload : Value}
    (written : PayloadOf encode form file model payload) :
    parseRequest decode asF64 payload =
      if file.1.isEmpty then .error .emptyAudio else .ok (requestOf form file model) := by
  have temperature := readTemperature_floatValue exact form.temperature
  unfold parseRequest
  rw [written.audio, written.model, written.fileName, written.language, written.prompt,
    written.responseFormat, written.temperature]
  rw [temperature]
  change ((decode (encode file.1)).mapError TranscriptionError.invalidBase64 >>= _) = _
  rw [codec]
  change (if file.1.isEmpty = true then _ else _) = _
  cases file.1.isEmpty <;> rfl

end Arrival

/-- The forms that are accepted, and what the payload says of them. -/
theorem audioTranscriptions_eq_ok_iff (parseFloat : String → Option Nat)
    (encode : List UInt8 → String) (fields : List FormField) (payload : Value) :
    audioTranscriptions parseFloat encode fields = .ok payload ↔
      (∀ field ∈ fields, field.Accepted) ∧
        ∃ file model, lastFile fields = some file ∧ lastText "model" fields = some model ∧
          transcriptionPayload encode (formOf parseFloat fields) = .ok payload := by
  have complete : transcriptionPayload encode (formOf parseFloat fields) = .ok payload →
      ∃ file model, lastFile fields = some file ∧ lastText "model" fields = some model := by
    intro written
    have lacks : ∀ message, transcriptionPayload encode (formOf parseFloat fields) ≠
        .error message := by
      intro message refused
      rw [written] at refused
      cases refused
    cases file : lastFile fields with
    | none => exact absurd (by rw [transcriptionPayload, formOf, file]) (lacks _)
    | some file' =>
        cases model : lastText "model" fields with
        | none => exact absurd (by rw [transcriptionPayload, formOf, file, model]) (lacks _)
        | some model' => exact ⟨file', model', rfl, rfl⟩
  unfold audioTranscriptions
  cases read : readForm parseFloat fields with
  | error error =>
      refine iff_of_false (fun same => by cases same) fun ⟨accepted, _⟩ => ?_
      rw [(readForm_eq_ok_iff parseFloat fields _).mpr ⟨accepted, rfl⟩] at read
      cases read
  | ok form =>
      obtain ⟨accepted, rfl⟩ := (readForm_eq_ok_iff parseFloat fields form).mp read
      change transcriptionPayload encode (formOf parseFloat fields) = .ok payload ↔ _
      constructor
      · intro written
        obtain ⟨file, model, hasFile, hasModel⟩ := complete written
        exact ⟨accepted, file, model, hasFile, hasModel, written⟩
      · rintro ⟨_, _, _, _, _, written⟩
        exact written

/-! ### What the gateway collects -/

theorem collectResponse_chunks (chunks : List Value) (result : Option Value)
    (later : List StreamFrame) :
    collectResponse result (chunks.map .chunk ++ later) =
      collectResponse (chunks.getLast?.or result) later := by
  induction chunks generalizing result with
  | nil => rfl
  | cons data rest ih =>
      change collectResponse (some data) (rest.map .chunk ++ later) = _
      rw [ih, List.getLast?_cons]
      cases rest.getLast? <;> rfl

/-- What the gateway collects of a job: the last chunk if it ended, else an error. -/
def Answers (chunks : List Value) (jobEnd : JobEnd) (collected : Except String Value) : Prop :=
  if jobEnd = .ended then
    collected = chunks.getLast?.elim (.error "worker sent done without data") .ok
  else ∃ message, collected = .error message

theorem answers_collectResponse {expired : Prop} {jobEnd : JobEnd} {final : List StreamFrame}
    (chunks : List Value) (closes : ClosesWith expired jobEnd final) :
    Answers chunks jobEnd (collectResponse none (relayed chunks jobEnd ++ final)) := by
  unfold Answers
  rw [relayed, List.append_assoc, collectResponse_chunks, Option.or_none]
  cases closes with
  | ended => exact rfl
  | failed message => exact ⟨message, rfl⟩
  | disconnected => exact ⟨_, rfl⟩
  | undispatched message => exact ⟨message, rfl⟩
  | rejected message => exact ⟨message, rfl⟩
  | expired =>
      cases jobEnd with
      | ended => exact rfl
      | failed message => exact ⟨message, rfl⟩
      | _ => exact ⟨"stream timed out", rfl⟩

section Runs

variable {WId SId SubId SubH : Type} [LinearOrder WId] [DecidableEq SId] [DecidableEq SubId]
  [ToString WId] [ToString SId]

end Runs

/-- The response for a result of the whisper server, or for what went wrong in the worker. -/
def answerTo : Except TranscriptionError Value → HttpResponse
  | .ok data => { status := 200, body := data }
  | .error error => { status := 500, body := errorResponse error.toText }

section Delivery

variable (fromStr : String → Except String Value) (printNumber : Number → List Char)

/-- What the relay puts on the channel of a transcription. -/
def transcriptionFrames (result : Option (Except TranscriptionError Value)) : List StreamFrame :=
  (relayJob fromStr ((processTranscriptionJob result).map fun message =>
    (messageText printNumber message, true))).1

variable {fromStr printNumber}

/-- The result of a transcription is the response, whatever the kernel still sends. -/
theorem response_transcriptionFrames {result : Except TranscriptionError Value}
    (reads : ∀ message ∈ processTranscriptionJob (some result),
      ReadsBack fromStr printNumber message.toValue) (final : List StreamFrame) :
    transcriptionResponse (collectResponse none
      (transcriptionFrames fromStr printNumber (some result) ++ final)) = answerTo result := by
  have read : ∀ message ∈ processTranscriptionJob (some result),
      readMessage fromStr (messageText printNumber message) = some message :=
    fun message inside => readMessage_text (reads message inside)
  unfold transcriptionFrames
  cases result with
  | ok data =>
      have chunk := read (.chunk data) List.mem_cons_self
      have done := read .end (List.mem_cons_of_mem _ List.mem_cons_self)
      simp only [processTranscriptionJob, List.map_cons, List.map_nil, relayJob, chunk, done]
      rfl
  | error error =>
      have failed := read (.error error.toText) List.mem_cons_self
      simp only [processTranscriptionJob, List.map_cons, List.map_nil, relayJob, failed]
      rfl

end Delivery

/-! ### A clip -/

def clipBytes : List UInt8 := [0x52, 0x49, 0x46]

/-- A form with a file, a model and a temperature. -/
def clip : List FormField :=
  [{ name := some "file", fileName := some "clip.m4a", bytes := .ok clipBytes, text := none },
    { name := some "model", fileName := none, bytes := .ok [], text := some "whisper-1" },
    { name := some "temperature", fileName := none, bytes := .ok [], text := some "0.5" }]

def halfFloat : Nat := 0x3FE0000000000000

def clipPayload : Value :=
  .ofMembers [("audio_base64", .string "UklG"), ("model", .string "whisper-1"),
    ("file_name", .string "clip.m4a"), ("temperature", .number (.float halfFloat))]

/-- The codec on the bytes of the clip; any other bytes are written as characters. -/
def clipEncode (bytes : List UInt8) : String :=
  if bytes = clipBytes then "UklG" else .ofList ('=' :: bytes.map fun b => .ofNat b.toNat)

def clipDecode (text : String) : Except String (List UInt8) :=
  if text = "UklG" then .ok clipBytes
  else .ok ((text.toList.drop 1).map fun c => .ofNat c.toNat)

theorem byte_of_char : ∀ b : UInt8, UInt8.ofNat (Char.ofNat b.toNat).toNat = b := by
  have codes : ∀ n < 256, (Char.ofNat n).toNat = n := by decide +kernel
  intro b
  rw [codes b.toNat b.toNat_lt, UInt8.ofNat_toNat]

theorem clipDecode_clipEncode (bytes : List UInt8) : clipDecode (clipEncode bytes) = .ok bytes := by
  by_cases same : bytes = clipBytes
  · rw [same]
    rfl
  · have other : String.ofList ('=' :: bytes.map fun b => Char.ofNat b.toNat) ≠ "UklG" := by
      intro same
      have chars := congrArg String.toList same
      rw [String.toList_ofList] at chars
      cases chars
    rw [clipEncode, if_neg same, clipDecode, if_neg other, String.toList_ofList]
    simp [Function.comp_def, byte_of_char]

def clipFloat (text : String) : Option Nat :=
  if text = "0.5" then some halfFloat else none

def clipF64 : Number → Nat
  | .float bits => bits
  | _ => 0

/-- The server knows the clip by its type and temperature. -/
def clipServer : WhisperServer := fun request =>
  if request.mimeType = "audio/mp4" ∧ request.temperature = some halfFloat then .ok (200, [0x22])
  else .error "unexpected request"

def clipResult : Except TranscriptionError Value :=
  transcribe (fun _ => .ok greeting) clipServer clipDecode clipF64 clipPayload

def clipParser : String → Except String Value :=
  parserOf [WorkerMessage.toValue (.chunk greeting), WorkerMessage.toValue .end]

end ProstheticConscience.Gateway
