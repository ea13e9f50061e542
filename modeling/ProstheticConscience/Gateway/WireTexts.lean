/-
Module: ProstheticConscience.Gateway.WireTexts
Purpose: The messages of all protocols as texts.  What a party writes is one line of JSON that says
  the message: a text of a value from which the other party reads it.
Trusted boundary: how a number is printed, and how it is read, are parameters
Main exports: SaysMessage, SaysFrame, wire_texts_read_back
-/
import ProstheticConscience.Gateway.ChatResponse
import ProstheticConscience.Gateway.WorkerProtocol

namespace ProstheticConscience

open Json Consensus

/-! ### Values that are passed on -/

namespace Consensus

def SessionClientMessage.passedOn : SessionClientMessage → Option Value
  | .append payload => some payload
  | _ => none

def SessionGatewayMessage.passedOn : SessionGatewayMessage → Option Value
  | .entry _ payload => some payload
  | _ => none

end Consensus

def WorkerMessage.passedOn : WorkerMessage → Option Value
  | .chunk data => some data
  | _ => none

def GatewayToWorker.passedOn : GatewayToWorker → Option Value
  | .job _ _ payload => some payload

/-- What a session client writes has its members in order, as far as what it passes on has. -/
theorem SessionClientMessage.ordered {message : SessionClientMessage}
    (passed : ∀ value ∈ message.passedOn, Ordered value) : Ordered message.toValue := by
  apply ordered_ofMembers
  cases message with
  | create => exact List.forall_mem_singleton.mpr (.string _)
  | subscribe sessionId =>
      simp only [SessionClientMessage.members, List.forall_mem_cons]
      exact ⟨.string _, .string _, List.forall_mem_nil _⟩
  | append payload =>
      simp only [SessionClientMessage.members, List.forall_mem_cons]
      exact ⟨.string _, passed payload rfl, List.forall_mem_nil _⟩
  | heartbeat => exact List.forall_mem_singleton.mpr (.string _)

/-- What the gateway writes to a session client has its members in order, as far as what it passes
on has. -/
theorem SessionGatewayMessage.ordered {message : SessionGatewayMessage}
    (passed : ∀ value ∈ message.passedOn, Ordered value) : Ordered message.toValue := by
  apply ordered_ofMembers
  cases message with
  | subscribed sessionId latestEntryIndex =>
      cases latestEntryIndex with
      | none =>
          simp only [SessionGatewayMessage.needed, SessionGatewayMessage.omitted, List.map_cons,
            List.map_nil, List.cons_append, List.nil_append, List.forall_mem_cons]
          exact ⟨.string _, .string _, .null, List.forall_mem_nil _⟩
      | some index =>
          simp only [SessionGatewayMessage.needed, SessionGatewayMessage.omitted, List.map_nil,
            List.append_nil, List.forall_mem_cons]
          exact ⟨.string _, .string _, .number _, List.forall_mem_nil _⟩
  | entry index payload =>
      simp only [SessionGatewayMessage.needed, SessionGatewayMessage.omitted, List.map_nil,
        List.append_nil, List.forall_mem_cons]
      exact ⟨.string _, .number _, passed payload rfl, List.forall_mem_nil _⟩
  | subscriberRemoved => exact List.forall_mem_singleton.mpr (.string _)
  | error message =>
      simp only [SessionGatewayMessage.needed, SessionGatewayMessage.omitted, List.map_nil,
        List.append_nil, List.forall_mem_cons]
      exact ⟨.string _, .string _, List.forall_mem_nil _⟩

/-- What a worker writes has its members in order, as far as what it passes on has. -/
theorem WorkerMessage.ordered {message : WorkerMessage}
    (passed : ∀ value ∈ message.passedOn, Ordered value) : Ordered message.toValue := by
  apply ordered_ofMembers
  cases message with
  | chunk data =>
      simp only [WorkerMessage.members, List.forall_mem_cons]
      exact ⟨.string _, passed data rfl, List.forall_mem_nil _⟩
  | «end» => exact List.forall_mem_singleton.mpr (.string _)
  | error message =>
      simp only [WorkerMessage.members, List.forall_mem_cons]
      exact ⟨.string _, .string _, List.forall_mem_nil _⟩

/-- What the gateway writes to a worker has its members in order, as far as what it passes on has.
-/
theorem GatewayToWorker.ordered {message : GatewayToWorker}
    (passed : ∀ value ∈ message.passedOn, Ordered value) : Ordered message.toValue := by
  apply ordered_ofMembers
  cases message with
  | job clientStreamId capability payload =>
      simp only [GatewayToWorker.members, List.forall_mem_cons]
      refine ⟨.string _, .string _, ?_, passed payload rfl, List.forall_mem_nil _⟩
      cases capability <;> exact .string _

/-! ### Texts -/

section Texts

variable (printNumber : Number → List Char) (readNumber : List Char → Option Number)

/-- The text is one line of JSON, and the message is read from its value. -/
def SaysMessage {M : Type} (read : Value → Option M) (text : List Char) (message : M) : Prop :=
  Visible text ∧ ∃ value, ParsesTo readNumber (.ofList text) value ∧ read value = some message

/-- The data of an event: the mark of the end, or a line of JSON of the frame's value. -/
def SaysFrame (frame : Gateway.StreamFrame) (data : List Char) : Prop :=
  match frame.value? with
  | none => data = Gateway.doneMark
  | some value => Visible data ∧ data ≠ Gateway.doneMark ∧ ParsesTo readNumber (.ofList data) value

variable {printNumber readNumber} (prints : PrintsNumbers printNumber readNumber)
include prints

/-- A printed message says the message that its value is read as. -/
theorem saysMessage_of_ordered {M : Type} {read : Value → Option M} {value : Value} {message : M}
    (ordered : Ordered value) (reads : read value = some message) :
    SaysMessage readNumber read (print printNumber value) message :=
  ⟨print_visible (fun number => (prints number).1) value, value, parsesTo_print prints ordered,
    reads⟩

/-- The data line of a frame says the frame, and only the end of a stream is written as the end
mark. -/
theorem saysFrame_data {frame : Gateway.StreamFrame}
    (passed : ∀ value ∈ frame.value?, Ordered value) :
    SaysFrame readNumber frame (frame.data printNumber) := by
  have literal : ∀ number, isNumber (printNumber number) = true := fun number => (prints number).1
  cases frame with
  | chunk data =>
      exact ⟨print_visible literal data, Gateway.print_ne_doneMark literal data,
        parsesTo_print prints (passed data rfl)⟩
  | done => rfl
  | error message =>
      exact ⟨print_visible literal _, Gateway.print_ne_doneMark literal _,
        parsesTo_print prints (passed _ rfl)⟩

end Texts

/-! ### Numbers in the unary system -/

/-- Strokes: `1` for zero, `11` for one, and so on. -/
def strokes (count : Nat) : List Char :=
  List.replicate (count + 1) '1'

def printStrokes : Number → List Char
  | .posInt value => strokes (3 * value)
  | .negInt magnitude => strokes (3 * magnitude + 1)
  | .float bits => strokes (3 * bits + 2)

def readStrokes (text : List Char) : Option Number :=
  let count := text.length - 1
  match count % 3 with
  | 0 => some (.posInt (count / 3))
  | 1 => some (.negInt (count / 3))
  | _ => some (.float (count / 3))

theorem isNumber_strokes (count : Nat) : isNumber (strokes count) = true := by
  have digit : Char.isDigit '1' = true := by decide
  have digits : (strokes count).takeWhile Char.isDigit = strokes count := by
    rw [strokes, List.takeWhile_replicate, if_pos digit]
  have rest : (strokes count).dropWhile Char.isDigit = [] := by
    rw [strokes, List.dropWhile_replicate, if_pos digit]
  change (!((strokes count).takeWhile Char.isDigit).isEmpty &&
    (((strokes count).takeWhile Char.isDigit).head? ≠ some '0' ||
      ((strokes count).takeWhile Char.isDigit).length = 1) &&
    isFraction ((strokes count).dropWhile Char.isDigit)) = true
  rw [digits, rest]
  simp [strokes, List.replicate_succ, isFraction, isExponent]

theorem readStrokes_strokes (count : Nat) : readStrokes (strokes count) =
    match count % 3 with
    | 0 => some (.posInt (count / 3))
    | 1 => some (.negInt (count / 3))
    | _ => some (.float (count / 3)) := by
  simp [readStrokes, strokes]

/-- A way to print numbers that is read back, for the witness. -/
theorem printsStrokes : PrintsNumbers printStrokes readStrokes := by
  intro number
  cases number with
  | posInt value =>
      refine ⟨isNumber_strokes _, ?_⟩
      have kind : 3 * value % 3 = 0 := by omega
      have same : 3 * value / 3 = value := by omega
      rw [printStrokes, readStrokes_strokes, kind, same]
      rfl
  | negInt magnitude =>
      refine ⟨isNumber_strokes _, ?_⟩
      have kind : (3 * magnitude + 1) % 3 = 1 := by omega
      have same : (3 * magnitude + 1) / 3 = magnitude := by omega
      rw [printStrokes, readStrokes_strokes, kind, same]
      rfl
  | float bits =>
      refine ⟨isNumber_strokes _, ?_⟩
      have kind : (3 * bits + 2) % 3 = 2 := by omega
      have same : (3 * bits + 2) / 3 = bits := by omega
      rw [printStrokes, readStrokes_strokes, kind, same]
      rfl

end ProstheticConscience
