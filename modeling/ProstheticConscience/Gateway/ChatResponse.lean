/-
Module: ProstheticConscience.Gateway.ChatResponse
Purpose: The response to a chat request: the frames on a client's channel as server-sent events, and
  what a client reads of them.
Trusted boundary: how the web framework writes an event, and how numbers are printed, are parameters
Main exports: errorResponse, StreamFrame.data, EventFormat, ResponseItem, responseText, received,
  dataLines_responseText, collectSseChunks_response
-/
import ProstheticConscience.Gateway.Relay
import ProstheticConscience.Gateway.Sse
import ProstheticConscience.JsonPrint
import ProstheticConscience.Utf8

namespace ProstheticConscience.Gateway

/-- The body that tells of an error. -/
def errorResponse (message : String) : Value :=
  .ofMembers [("error", .ofMembers [("message", .string message)])]

/-- How the web framework writes events: what follows the name of a data field, and the comment
that keeps a connection alive. -/
structure EventFormat where
  gap : List Char
  comment : List Char
  blankGap : ∀ c ∈ gap, isWhiteSpace c = true
  gapOneLine : '\n' ∉ gap
  commentOneLine : '\n' ∉ comment

/-- What the response consists of. -/
inductive ResponseItem where
  | event (frame : StreamFrame)
  | keepAlive
deriving DecidableEq, Repr

def ResponseItem.frame? : ResponseItem → Option StreamFrame
  | .event frame => some frame
  | .keepAlive => none

section Response

variable (format : EventFormat) (printNumber : Number → List Char)

/-- An event with some data, each line of it in a field of its own. -/
def EventFormat.event (data : List Char) : List Char :=
  (data.splitOn '\n').flatMap (fun line => "data:".toList ++ format.gap ++ line ++ ['\n']) ++ ['\n']

/-- The data of the event for a frame. -/
def StreamFrame.data : StreamFrame → List Char
  | .chunk data => Json.print printNumber data
  | .done => doneMark
  | .error message => Json.print printNumber (errorResponse message)

def ResponseItem.text : ResponseItem → List Char
  | .event frame => format.event (frame.data printNumber)
  | .keepAlive => ':' :: (format.comment ++ ['\n', '\n'])

def responseText (items : List ResponseItem) : List Char :=
  items.flatMap (ResponseItem.text format printNumber)

end Response

/-- What a client makes of the frames, up to the one that says that it is done. -/
def received : List StreamFrame → List Value
  | [] => []
  | .chunk data :: rest => data :: received rest
  | .done :: _ => []
  | .error message :: rest => errorResponse message :: received rest

/-! ### The lines of a response -/

/-- The data of all data lines. -/
def dataLines (text : List Char) : List (List Char) :=
  (text.splitOn '\n').filterMap payload?

/-- The data lines of a text are those of its first line and of the rest. -/
theorem dataLines_line {line : List Char} (unbroken : '\n' ∉ line) (text : List Char) :
    dataLines (line ++ '\n' :: text) = (payload? line).toList ++ dataLines text := by
  unfold dataLines
  rw [List.splitOn_append_cons_self_of_not_mem unbroken, List.filterMap_cons]
  cases payload? line <;> rfl

/-- White space in front is trimmed. -/
theorem trimChars_prepend_whiteSpace {white : List Char}
    (blank : ∀ c ∈ white, isWhiteSpace c = true) (text : List Char) :
    trimChars (white ++ text) = trimChars text := by
  induction white with
  | nil => rfl
  | cons c rest ih =>
      rw [List.cons_append, trimChars_cons_whiteSpace (blank c List.mem_cons_self)]
      exact ih fun other member => blank other (List.mem_cons_of_mem _ member)

/-- The data stands on one line, and nothing is trimmed off it. -/
structure Solid (data : List Char) : Prop where
  oneLine : '\n' ∉ data
  trimmed : trimChars data = data

variable {format : EventFormat} {printNumber : Number → List Char}

/-- The data field of an event is read as its data. -/
theorem payload?_field {data : List Char} (solid : Solid data) :
    payload? ("data:".toList ++ format.gap ++ data) = some data := by
  rw [payload?_eq, List.append_assoc, (stripPrefix_eq_some_iff _ _ _).mpr rfl, Option.map_some,
    trimChars_prepend_whiteSpace format.blankGap, solid.trimmed]

/-- A comment line has no data. -/
theorem payload?_comment (comment : List Char) : payload? (':' :: comment) = none := by
  rw [payload?_eq]
  rfl

/-- An event has one data line, its data. -/
theorem dataLines_event {data : List Char} (solid : Solid data) (text : List Char) :
    dataLines (format.event data ++ text) = data :: dataLines text := by
  have oneLine : '\n' ∉ "data:".toList ++ format.gap ++ data := by
    simp only [List.mem_append, not_or]
    exact ⟨⟨by decide, format.gapOneLine⟩, solid.oneLine⟩
  have blank : payload? [] = none := rfl
  have event : format.event data ++ text =
      ("data:".toList ++ format.gap ++ data) ++ '\n' :: ([] ++ '\n' :: text) := by
    rw [EventFormat.event, List.splitOn_eq_singleton solid.oneLine]
    simp
  rw [event, dataLines_line oneLine, payload?_field solid, dataLines_line List.not_mem_nil, blank]
  rfl

/-- A keep-alive has no data line. -/
theorem dataLines_comment (text : List Char) :
    dataLines (ResponseItem.keepAlive.text format printNumber ++ text) = dataLines text := by
  have oneLine : '\n' ∉ ':' :: format.comment := by
    simp only [List.mem_cons, not_or]
    exact ⟨by decide, format.commentOneLine⟩
  have item : ResponseItem.keepAlive.text format printNumber ++ text =
      (':' :: format.comment) ++ '\n' :: ([] ++ '\n' :: text) := by
    simp [ResponseItem.text]
  rw [item, dataLines_line oneLine, payload?_comment, dataLines_line List.not_mem_nil]
  rfl

section Literal

variable (literal : ∀ number, Json.isNumber (printNumber number) = true)
include literal

/-- A printed value is solid: one line, without white space at its ends. -/
theorem solid_print (value : Value) : Solid (Json.print printNumber value) where
  oneLine newline := absurd (Json.print_visible literal value '\n' newline) (by decide)
  trimmed := Json.trimChars_print literal value

omit literal in
theorem doneMark_solid : Solid doneMark := ⟨by decide, by decide⟩

/-- The data of every frame is solid. -/
theorem StreamFrame.solid_data (frame : StreamFrame) : Solid (frame.data printNumber) := by
  cases frame with
  | chunk data => exact solid_print literal data
  | done => exact doneMark_solid
  | error message => exact solid_print literal (errorResponse message)

/-- The data lines of a response are those of its frames: one line a frame. -/
theorem dataLines_responseText (items : List ResponseItem) :
    dataLines (responseText format printNumber items) =
      (items.filterMap ResponseItem.frame?).map (StreamFrame.data printNumber) := by
  induction items with
  | nil => rfl
  | cons item rest ih =>
      rw [responseText, List.flatMap_cons, ← responseText]
      cases item with
      | event frame =>
          rw [ResponseItem.text, dataLines_event (frame.solid_data literal), ih]
          rfl
      | keepAlive =>
          rw [dataLines_comment, ih]
          rfl

/-- No value is taken for the end of the response. -/
theorem print_ne_doneMark (value : Value) : Json.print printNumber value ≠ doneMark := by
  intro same
  cases value with
  | array items =>
      obtain ⟨c, rest, printed, starts⟩ := Json.print_array_starts literal items
      rw [same] at printed
      obtain ⟨rfl, _⟩ := List.cons.inj (List.cons.inj printed).2
      exact absurd starts (by decide)
  | number number =>
      have inNumber := (Json.isNumber_chars (literal number)).2 '['
      rw [show printNumber number = doneMark from same] at inNumber
      exact absurd (inNumber List.mem_cons_self) (by decide)
  | bool value => cases value <;> cases same
  | _ => cases same

/-! ### What a client reads -/

/-- The value in the event for a frame. -/
def StreamFrame.value? : StreamFrame → Option Value
  | .chunk data => some data
  | .done => none
  | .error message => some (errorResponse message)

variable {fromStr : String → Except String Value}

/-- A client that reads back what was printed of the values receives the frames. -/
theorem parsePayloads_frames {frames : List StreamFrame}
    (reads : ∀ value ∈ frames.filterMap StreamFrame.value?,
      fromStr (.ofList (Json.print printNumber value)) = .ok value) :
    parsePayloads fromStr ((frames.map (StreamFrame.data printNumber)).takeWhile (· ≠ doneMark)) =
      { values := received frames, ending := .finished } := by
  have goesOn : ∀ (value : Value) (later : List (List Char)),
      (Json.print printNumber value :: later).takeWhile (· ≠ doneMark) =
        Json.print printNumber value :: later.takeWhile (· ≠ doneMark) := fun value later =>
    List.takeWhile_cons_of_pos (by simp [print_ne_doneMark literal value])
  induction frames with
  | nil => rfl
  | cons frame rest ih =>
      cases frame with
      | chunk data =>
          have later := ih fun value member => reads value (List.mem_cons_of_mem _ member)
          rw [List.map_cons, StreamFrame.data, goesOn, parsePayloads,
            reads data List.mem_cons_self, later]
          rfl
      | done => rfl
      | error message =>
          have later := ih fun value member => reads value (List.mem_cons_of_mem _ member)
          rw [List.map_cons, StreamFrame.data, goesOn, parsePayloads,
            reads (errorResponse message) List.mem_cons_self, later]
          rfl

/-- The client's reader, on a response that no cut splits inside a character. -/
theorem collectSseChunks_response {items : List ResponseItem} {chunks : List (List UInt8)}
    (whole : utf8.Whole chunks)
    (sent : chunks.flatten = utf8Bytes (responseText format printNumber items))
    (reads : ∀ value ∈ (items.filterMap ResponseItem.frame?).filterMap StreamFrame.value?,
      fromStr (.ofList (Json.print printNumber value)) = .ok value) :
    collectSseChunks fromStr { chunks, failure := none } =
      .ok (received (items.filterMap ResponseItem.frame?)) := by
  have text : utf8.decodePieces chunks = responseText format printNumber items := by
    rw [UnitDecoder.decodePieces_of_whole whole, sent]
    exact fromUtf8Lossy_utf8Bytes _
  have lines : payloads (responseText format printNumber items) =
      (dataLines (responseText format printNumber items)).takeWhile (· ≠ doneMark) := rfl
  rw [collectSseChunks, sseLoop_eq fromStr [] chunks rfl, List.nil_append, text, lines,
    dataLines_responseText literal, parsePayloads_frames literal reads]
  rfl

end Literal

end ProstheticConscience.Gateway
