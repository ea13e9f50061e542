/-
Module: ProstheticConscience.Gateway.Sse
Purpose: Reading a stream of server-sent events, as the worker reads the inference server's and the
  client reads the gateway's: the network chunks of a body are decoded as they arrive, lines are
  taken off a buffer, and the data of a line is parsed as JSON.
Trusted boundary: none
Main exports: Body, payload?, SseOutcome, readLine, sseLoop, streamCompletion, collectSseChunks,
  payloads, expected, parsePayloads_cons, sseLoop_eq
-/
import ProstheticConscience.Json
import ProstheticConscience.Text

namespace ProstheticConscience.Gateway

/-- The network chunks of a response body, and the error that ends it early. -/
structure Body where
  chunks : List (List UInt8)
  failure : Option String
deriving DecidableEq, Repr

/-! ### Lines -/

/-- The first line of a buffer and what follows it, when the line is complete. -/
def splitLine : List Char → Option (List Char × List Char)
  | [] => none
  | c :: buffer =>
      if c = '\n' then some ([], buffer)
      else (splitLine buffer).map fun (line, rest) => (c :: line, rest)

def stripPrefix : List Char → List Char → Option (List Char)
  | [], text => some text
  | c :: word, d :: text => if c = d then stripPrefix word text else none
  | _ :: _, [] => none

/-- The data of a line, if it is a data line: no separator, no comment and no other field. -/
def payload? (line : List Char) : Option (List Char) :=
  let line := line.rdropWhile (· = '\r')
  if line.isEmpty || [':'].isPrefixOf line then none
  else
    ((stripPrefix "data: ".toList line).or (stripPrefix "data:".toList line)).map trimChars

def doneMark : List Char :=
  "[DONE]".toList

/-! ### The loop -/

/-- How reading a body ends. -/
inductive SseEnd where
  | finished
  | malformed (message : String)
  | failed (error : String)
deriving DecidableEq, Repr

/-- The values that were read, and how reading ended. -/
structure SseOutcome where
  values : List Value
  ending : SseEnd
deriving DecidableEq

def SseOutcome.yield (value : Value) (outcome : SseOutcome) : SseOutcome :=
  { outcome with values := value :: outcome.values }

/-- What a line is to the loop. -/
inductive LineEvent where
  | skip
  | done
  | value (value : Value)
  | malformed (message : String)

def readLine (fromStr : String → Except String Value) (line : List Char) : LineEvent :=
  match payload? line with
  | none => .skip
  | some data =>
      if data = doneMark then .done
      else
        match fromStr (.ofList data) with
        | .ok value => .value value
        | .error error => .malformed ("invalid JSON in SSE data: " ++ error)

/-- Whether what follows the last line break of a buffer is more than white space. -/
def unfinished (buffer : List Char) : Nat :=
  if (trimChars ((buffer.splitOn '\n').getLastD [])).isEmpty then 0 else 1

theorem splitLine_eq_some {buffer line rest : List Char}
    (split : splitLine buffer = some (line, rest)) :
    buffer = line ++ '\n' :: rest ∧ '\n' ∉ line := by
  induction buffer generalizing line with
  | nil => cases split
  | cons c buffer ih =>
      rw [splitLine] at split
      by_cases newline : c = '\n'
      · rw [if_pos newline] at split
        cases split
        exact ⟨by rw [newline]; rfl, List.not_mem_nil⟩
      · rw [if_neg newline] at split
        obtain ⟨⟨later, rest'⟩, found, same⟩ := Option.map_eq_some_iff.mp split
        cases same
        obtain ⟨rfl, absent⟩ := ih found
        exact ⟨rfl, by simp [absent, Ne.symm newline]⟩

theorem splitLine_eq_none {buffer : List Char} (unbroken : splitLine buffer = none) :
    '\n' ∉ buffer := by
  induction buffer with
  | nil => exact List.not_mem_nil
  | cons c buffer ih =>
      rw [splitLine] at unbroken
      by_cases newline : c = '\n'
      · simp [newline] at unbroken
      · rw [if_neg newline, Option.map_eq_none_iff] at unbroken
        simp [ih unbroken, Ne.symm newline]

theorem unfinished_append_cons (line rest : List Char) :
    unfinished (line ++ '\n' :: rest) = unfinished rest := by
  unfold unfinished
  rw [List.splitOn_append_cons_self, List.getLastD_eq_getLast?, List.getLastD_eq_getLast?,
    List.getLast?_append_of_ne_nil _ (List.splitOn_ne_nil _ rest)]

/-- Taking off a line leaves the end of the buffer as it is. -/
theorem shorter_of_splitLine {buffer line rest : List Char}
    (split : splitLine buffer = some (line, rest)) :
    unfinished rest = unfinished buffer ∧ rest.length < buffer.length := by
  obtain ⟨rfl, _⟩ := splitLine_eq_some split
  refine ⟨(unfinished_append_cons line rest).symm, ?_⟩
  rw [List.length_append, List.length_cons]
  omega

/-- What is left at the end of the body is unfinished until it is taken for a line. -/
theorem unfinished_of_notMem {buffer : List Char} (unbroken : '\n' ∉ buffer)
    (visible : ¬(trimChars buffer).isEmpty = true) : unfinished buffer = 1 := by
  unfold unfinished
  rw [List.splitOn_eq_singleton unbroken]
  exact if_neg visible

/-- The loop of both readers: take off a line, or read the next chunk, or, at the end of the body,
treat the rest as a line. -/
def sseLoop (fromStr : String → Except String Value) (buffer : List Char)
    (chunks : List (List UInt8)) (failure : Option String) : SseOutcome :=
  match _split : splitLine buffer with
  | some (line, rest) =>
      match readLine fromStr line with
      | .skip => sseLoop fromStr rest chunks failure
      | .done => { values := [], ending := .finished }
      | .value value => (sseLoop fromStr rest chunks failure).yield value
      | .malformed message => { values := [], ending := .malformed message }
  | none =>
      match chunks, failure with
      | bytes :: later, _ => sseLoop fromStr (buffer ++ fromUtf8Lossy bytes) later failure
      | [], some error => { values := [], ending := .failed error }
      | [], none =>
          if _blank : (trimChars buffer).isEmpty then { values := [], ending := .finished }
          else sseLoop fromStr (buffer ++ ['\n']) [] none
termination_by (chunks.length, unfinished buffer, buffer.length)
decreasing_by
  · obtain ⟨same, shorter⟩ := shorter_of_splitLine _split
    rw [same]
    exact Prod.Lex.right _ (Prod.Lex.right _ shorter)
  · obtain ⟨same, shorter⟩ := shorter_of_splitLine _split
    rw [same]
    exact Prod.Lex.right _ (Prod.Lex.right _ shorter)
  · exact Prod.Lex.left _ _ (Nat.lt_succ_self _)
  · apply Prod.Lex.right
    apply Prod.Lex.left
    rw [unfinished_of_notMem (splitLine_eq_none _split) _blank, unfinished_append_cons]
    decide

/-! ### The two readers -/

inductive InferenceError where
  | http (error : String)
  | parse (message : String)
deriving DecidableEq, Repr

inductive ClientError where
  | http (error : String)
  | parse (message : String)
deriving DecidableEq, Repr

/-- Replace the model of a response chunk, if it names one. -/
def scrubModelFromChunk : Value → Value
  | .object members =>
      if (members.lookup "model").isSome then
        .object (Value.insertMember "model" (.string "mystery_model") members)
      else .object members
  | chunk => chunk

/-- The outcome as the worker's stream of results, which ends with an error. -/
def SseOutcome.toStream (scrub : Bool) (outcome : SseOutcome) :
    List (Except InferenceError Value) :=
  let values := if scrub then outcome.values.map scrubModelFromChunk else outcome.values
  values.map .ok ++
    match outcome.ending with
    | .finished => []
    | .malformed message => [.error (.parse message)]
    | .failed error => [.error (.http error)]

/-- The outcome as the client's result: all the values, or the error. -/
def SseOutcome.toResult (outcome : SseOutcome) : Except ClientError (List Value) :=
  match outcome.ending with
  | .finished => .ok outcome.values
  | .malformed message => .error (.parse message)
  | .failed error => .error (.http error)

/-- The worker's reader, for a response of status 200; `scrub` says whether the model of the
response is overridden. -/
def streamCompletion (fromStr : String → Except String Value) (scrub : Bool) (body : Body) :
    List (Except InferenceError Value) :=
  (sseLoop fromStr [] body.chunks body.failure).toStream scrub

def collectSseChunks (fromStr : String → Except String Value) (body : Body) :
    Except ClientError (List Value) :=
  (sseLoop fromStr [] body.chunks body.failure).toResult

/-! ### What a body says

A declarative reading of a body, by its data lines, against which both readers are compared. -/

/-- The data of lines, up to the line that says that it is done. -/
def linePayloads (lines : List (List Char)) : List (List Char) :=
  (lines.filterMap payload?).takeWhile (· ≠ doneMark)

def payloads (text : List Char) : List (List Char) :=
  linePayloads (text.splitOn '\n')

/-- Parse data as JSON until one piece of data is malformed. -/
def parsePayloads (fromStr : String → Except String Value) : List (List Char) → SseOutcome
  | [] => { values := [], ending := .finished }
  | data :: rest =>
      match fromStr (.ofList data) with
      | .ok value => (parsePayloads fromStr rest).yield value
      | .error error =>
          { values := [], ending := .malformed ("invalid JSON in SSE data: " ++ error) }

/-- What a body says, independently of its chunks: the values of its data lines in order, up to
the first that says that it is done or is malformed. -/
def expected (fromStr : String → Except String Value) (bytes : List UInt8) : SseOutcome :=
  parsePayloads fromStr (payloads (fromUtf8Lossy bytes))

theorem stripPrefix_eq_some_iff (word text rest : List Char) :
    stripPrefix word text = some rest ↔ text = word ++ rest := by
  induction word generalizing text with
  | nil => simp [stripPrefix]
  | cons c word ih =>
      cases text with
      | nil => simp [stripPrefix]
      | cons d text =>
          rw [stripPrefix]
          by_cases same : c = d
          · rw [if_pos same, ih, same]
            simp
          · simp [same, Ne.symm same]

/-- Carriage returns at the end of a data line are trimmed off its data in any case. -/
theorem exists_rdropWhile_data (rest : List Char) :
    ∃ kept, ("data:".toList ++ rest).rdropWhile (· = '\r') = "data:".toList ++ kept ∧
      trimChars kept = trimChars rest := by
  induction rest using List.reverseRecOn with
  | nil => exact ⟨[], rfl, rfl⟩
  | append_singleton rest c ih =>
      rw [← List.append_assoc]
      by_cases carriage : c = '\r'
      · obtain ⟨kept, dropped, same⟩ := ih
        refine ⟨kept, ?_, ?_⟩
        · rw [List.rdropWhile_concat_pos _ _ _ (by simp [carriage]), dropped]
        · have blank : ∀ c ∈ ['\r'], isWhiteSpace c = true := by
            intro c member
            rw [List.mem_singleton.mp member]
            rfl
          rw [same, carriage, trimChars_append_whiteSpace rest blank]
      · refine ⟨rest ++ [c], ?_, rfl⟩
        rw [List.rdropWhile_concat_neg _ _ _ (by simp [carriage]), List.append_assoc]

/-- The data of a line is what follows the field name, trimmed. -/
theorem payload?_eq (line : List Char) :
    payload? line = (stripPrefix "data:".toList line).map trimChars := by
  cases found : stripPrefix "data:".toList line with
  | some rest =>
      rw [(stripPrefix_eq_some_iff _ _ _).mp found]
      obtain ⟨kept, dropped, same⟩ := exists_rdropWhile_data rest
      unfold payload?
      rw [dropped]
      cases kept with
      | nil => simp [stripPrefix, ← same]
      | cons c kept =>
          by_cases space : c = ' '
          · subst space
            rw [trimChars_cons_whiteSpace (by decide)] at same
            simp [stripPrefix, ← same]
          · simp [stripPrefix, ← same, Ne.symm space]
  | none =>
      obtain ⟨dropped, joined⟩ : line.rdropWhile (· = '\r') <+: line := List.rdropWhile_prefix _ _
      have other : ∀ rest, line.rdropWhile (· = '\r') ≠ "data:".toList ++ rest := by
        intro rest same
        rw [same, List.append_assoc] at joined
        rw [(stripPrefix_eq_some_iff _ _ _).mpr joined.symm] at found
        cases found
      have noData : stripPrefix "data:".toList (line.rdropWhile (· = '\r')) = none := by
        rw [Option.eq_none_iff_forall_ne_some]
        intro rest same
        exact other rest ((stripPrefix_eq_some_iff _ _ _).mp same)
      have noSpace : stripPrefix "data: ".toList (line.rdropWhile (· = '\r')) = none := by
        rw [Option.eq_none_iff_forall_ne_some]
        intro rest same
        exact other (' ' :: rest) ((stripPrefix_eq_some_iff "data: ".toList _ _).mp same)
      unfold payload?
      dsimp only
      split
      · rfl
      · rw [noSpace, noData]
        rfl

/-- A blank line has no data. -/
theorem payload?_blank {line : List Char} (blank : (trimChars line).isEmpty = true) :
    payload? line = none := by
  rw [payload?_eq]
  cases found : stripPrefix "data:".toList line with
  | none => rfl
  | some rest =>
      have kept : (trimChars line).countP (· = 'd') = line.countP (· = 'd') :=
        countP_trimChars (by simp [isWhiteSpace]) line
      rw [List.isEmpty_iff.mp blank, (stripPrefix_eq_some_iff _ _ _).mp found] at kept
      simp at kept

/-- What is read once a line was read and what follows it is read. -/
def LineEvent.followedBy (event : LineEvent) (later : SseOutcome) : SseOutcome :=
  match event with
  | .skip => later
  | .done => { values := [], ending := .finished }
  | .value parsed => later.yield parsed
  | .malformed message => { values := [], ending := .malformed message }

theorem readLine_eq_skip_iff (fromStr : String → Except String Value) (line : List Char) :
    readLine fromStr line = .skip ↔ payload? line = none := by
  unfold readLine
  cases payload? line with
  | none => simp
  | some data =>
      by_cases done : data = doneMark
      · simp [done]
      · cases parsed : fromStr (.ofList data) <;> simp [done, parsed]

variable {fromStr : String → Except String Value}

/-- A line contributes what the loop makes of it. -/
theorem parsePayloads_cons (line : List Char) (lines : List (List Char)) :
    parsePayloads fromStr (linePayloads (line :: lines)) =
      (readLine fromStr line).followedBy (parsePayloads fromStr (linePayloads lines)) := by
  unfold linePayloads readLine
  rw [List.filterMap_cons]
  cases payload? line with
  | none => rfl
  | some data =>
      by_cases done : data = doneMark
      · simp [done, parsePayloads, LineEvent.followedBy]
      · simp only [List.takeWhile_cons, done, parsePayloads, ne_eq, not_false_eq_true,
          decide_true, if_true, if_false]
        cases fromStr (.ofList data) <;> rfl

theorem parsePayloads_line {line : List Char} (unbroken : '\n' ∉ line) (text : List Char) :
    parsePayloads fromStr (payloads (line ++ '\n' :: text)) =
      (readLine fromStr line).followedBy (parsePayloads fromStr (payloads text)) := by
  rw [payloads, List.splitOn_append_cons_self_of_not_mem unbroken, parsePayloads_cons, payloads]

/-- A last line without line break is a line. -/
theorem parsePayloads_lastLine {line : List Char} (unbroken : '\n' ∉ line) :
    parsePayloads fromStr (payloads line) =
      (readLine fromStr line).followedBy { values := [], ending := .finished } := by
  rw [payloads, List.splitOn_eq_singleton unbroken, parsePayloads_cons]
  rfl

/-- The loop reads what the decoded chunks say. -/
theorem sseLoop_eq (fromStr : String → Except String Value) (buffer : List Char)
    (chunks : List (List UInt8)) {failure : Option String} (complete : failure = none) :
    sseLoop fromStr buffer chunks failure =
      parsePayloads fromStr (payloads (buffer ++ utf8.decodePieces chunks)) := by
  fun_induction sseLoop fromStr buffer chunks failure with
  | case1 buffer chunks failure line rest split skip ih =>
      obtain ⟨rfl, unbroken⟩ := splitLine_eq_some split
      rw [List.append_assoc, List.cons_append, parsePayloads_line unbroken, skip]
      exact ih complete
  | case2 buffer chunks failure line rest split done =>
      obtain ⟨rfl, unbroken⟩ := splitLine_eq_some split
      rw [List.append_assoc, List.cons_append, parsePayloads_line unbroken, done]
      rfl
  | case3 buffer chunks failure line rest split value found ih =>
      obtain ⟨rfl, unbroken⟩ := splitLine_eq_some split
      rw [List.append_assoc, List.cons_append, parsePayloads_line unbroken, found]
      exact congrArg (SseOutcome.yield value) (ih complete)
  | case4 buffer chunks failure line rest split message malformed =>
      obtain ⟨rfl, unbroken⟩ := splitLine_eq_some split
      rw [List.append_assoc, List.cons_append, parsePayloads_line unbroken, malformed]
      rfl
  | case5 buffer failure bytes later unbroken ih =>
      rw [ih complete, UnitDecoder.decodePieces_cons, List.append_assoc]
      rfl
  | case6 buffer error unbroken => cases complete
  | case7 buffer unbroken blank =>
      have skips := (readLine_eq_skip_iff fromStr buffer).mpr (payload?_blank blank)
      rw [UnitDecoder.decodePieces_nil, List.append_nil,
        parsePayloads_lastLine (splitLine_eq_none unbroken), skips]
      rfl
  | case8 buffer unbroken visible ih =>
      have single := splitLine_eq_none unbroken
      rw [ih complete]
      simp only [UnitDecoder.decodePieces_nil, List.append_nil]
      rw [parsePayloads_line single, parsePayloads_lastLine single]
      rfl

end ProstheticConscience.Gateway
