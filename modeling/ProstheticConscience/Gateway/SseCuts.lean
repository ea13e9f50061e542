/-
Module: ProstheticConscience.Gateway.SseCuts
Purpose: How the cut of a body into network chunks shows in what is read of it: chunks are decoded
  one by one, so a character that a cut splits is replaced by several others; and when the two
  readers give the same values, though only one of them keeps what it read before an error.
Trusted boundary: none
Main exports: DataLinesWhole, LinesReadAlike, NoErrorAfterValue, ReadsAsOne, CutIndependent,
  cut_independent_iff
-/
import ProstheticConscience.Gateway.Sse

namespace ProstheticConscience.Gateway

/-- No cut splits a character, or what is replaced as one, in the data lines of a body up to the
line that says that it is done. -/
def DataLinesWhole : List (List (List UInt8)) → Prop
  | [] => True
  | pieces :: rest =>
      match payload? (fromUtf8Lossy pieces.flatten) with
      | none => DataLinesWhole rest
      | some data => utf8.Whole pieces ∧ (data = doneMark ∨ DataLinesWhole rest)

def LineEvent.goesOn : LineEvent → Bool
  | .skip | .value _ => true
  | .done | .malformed _ => false

/-- In each line, up to the one where reading ends, no cut splits a character, or the parser makes
the same of the line with the replacement characters. -/
def LinesReadAlike (fromStr : String → Except String Value) : List (List (List UInt8)) → Prop
  | [] => True
  | pieces :: rest =>
      let event := readLine fromStr (fromUtf8Lossy pieces.flatten)
      (utf8.Whole pieces ∨ readLine fromStr (utf8.decodePieces pieces) = event) ∧
        (event.goesOn = true → LinesReadAlike fromStr rest)

/-- No data line is malformed, up to the one that says that it is done. -/
def NoError (fromStr : String → Except String Value) : List (List Char) → Prop
  | [] => True
  | line :: rest =>
      match readLine fromStr line with
      | .skip | .value _ => NoError fromStr rest
      | .done => True
      | .malformed _ => False

/-- No malformed data line is read after a value. -/
def NoErrorAfterValue (fromStr : String → Except String Value) : List (List Char) → Prop
  | [] => True
  | line :: rest =>
      match readLine fromStr line with
      | .skip => NoErrorAfterValue fromStr rest
      | .value _ => NoError fromStr rest
      | .done | .malformed _ => True

/-- The values that the worker's stream yields. -/
def streamValues (results : List (Except InferenceError Value)) : List Value :=
  results.filterMap Except.toOption

/-- The values that the client gets; with an error it gets none. -/
def resultValues : Except ClientError (List Value) → List Value
  | .ok values => values
  | .error _ => []

/-- Each reader reads from the chunks what it reads from a single one, and that is what the body
says, as far as the reader tells it. -/
structure ReadsAsOne (fromStr : String → Except String Value) (chunks : List (List UInt8)) :
    Prop where
  worker : ∀ scrub,
    streamCompletion fromStr scrub { chunks, failure := none } =
      streamCompletion fromStr scrub { chunks := [chunks.flatten], failure := none }
  client :
    collectSseChunks fromStr { chunks, failure := none } =
      collectSseChunks fromStr { chunks := [chunks.flatten], failure := none }
  workerReads :
    streamCompletion fromStr false { chunks, failure := none } =
      (expected fromStr chunks.flatten).toStream false
  clientReads :
    collectSseChunks fromStr { chunks, failure := none } =
      (expected fromStr chunks.flatten).toResult

/-- Moreover both readers give the values that the body says, and so the same ones. -/
structure CutIndependent (fromStr : String → Except String Value) (chunks : List (List UInt8)) :
    Prop extends ReadsAsOne fromStr chunks where
  workerValues :
    streamValues (streamCompletion fromStr false { chunks, failure := none }) =
      (expected fromStr chunks.flatten).values
  clientValues :
    resultValues (collectSseChunks fromStr { chunks, failure := none }) =
      (expected fromStr chunks.flatten).values
  sameValues :
    streamValues (streamCompletion fromStr false { chunks, failure := none }) =
      resultValues (collectSseChunks fromStr { chunks, failure := none })

/-! ### One line

The worker's reader decodes each chunk by itself, so that a character that is cut becomes
replacement characters. A line is read alike when this does not show in what is made of it. -/

/-- The bytes of the name of a data field. -/
def dataWord : List (UInt8 × Char) :=
  [(0x64, 'd'), (0x61, 'a'), (0x74, 't'), (0x61, 'a'), (0x3A, ':')]

/-- The field name of a data line has no character of several bytes. -/
theorem dataWord_plain : ∀ symbol ∈ dataWord, utf8.IsPlain symbol.1 symbol.2 := by
  simp only [dataWord, List.mem_cons, List.not_mem_nil, or_false]
  rintro symbol (rfl | rfl | rfl | rfl | rfl)
  · exact utf8_isPlain (b := 0x64) (by decide)
  · exact utf8_isPlain (b := 0x61) (by decide)
  · exact utf8_isPlain (b := 0x74) (by decide)
  · exact utf8_isPlain (b := 0x61) (by decide)
  · exact utf8_isPlain (b := 0x3A) (by decide)

/-- Nor has the line break. -/
theorem newline_plain : utf8.IsPlain 0x0A '\n' :=
  utf8_isPlain (b := 0x0A) (by decide)

/-- A data line is the field name followed by the data, which is trimmed. -/
theorem payload?_eq_some_iff (line data : List Char) :
    payload? line = some data ↔ ∃ rest, line = "data:".toList ++ rest ∧ trimChars rest = data := by
  rw [payload?_eq, Option.map_eq_some_iff]
  simp only [stripPrefix_eq_some_iff]

/-- A line is a data line exactly when it begins with the field name. -/
theorem isSome_payload?_iff (line : List Char) :
    (payload? line).isSome = true ↔ dataWord.map Prod.snd <+: line := by
  rw [Option.isSome_iff_exists]
  constructor
  · rintro ⟨data, found⟩
    obtain ⟨rest, rfl, _⟩ := (payload?_eq_some_iff line data).mp found
    exact ⟨rest, rfl⟩
  · rintro ⟨rest, rfl⟩
    exact ⟨trimChars rest, (payload?_eq_some_iff _ _).mpr ⟨rest, rfl, rfl⟩⟩

/-- Whether a line is a data line does not depend on the cut. -/
theorem isSome_payload?_pieces (pieces : List (List UInt8)) :
    (payload? (utf8.decodePieces pieces)).isSome =
      (payload? (fromUtf8Lossy pieces.flatten)).isSome := by
  rw [Bool.eq_iff_iff, isSome_payload?_iff, isSome_payload?_iff, fromUtf8Lossy,
    ← UnitDecoder.decodePieces_singleton,
    UnitDecoder.isPrefix_decodePieces_iff dataWord_plain,
    UnitDecoder.isPrefix_decodePieces_iff dataWord_plain, List.flatten_singleton]

/-- A cut that splits a character leaves more replacement characters in the data. -/
theorem countP_data_lt {pieces : List (List UInt8)} {data damaged : List Char}
    (split : ¬utf8.Whole pieces)
    (whole : payload? (fromUtf8Lossy pieces.flatten) = some data)
    (cut : payload? (utf8.decodePieces pieces) = some damaged) :
    data.countP (· = Utf8.replacement) < damaged.countP (· = Utf8.replacement) := by
  have visible : ∀ c, decide (c = Utf8.replacement) = true → isWhiteSpace c = false := by
    intro c same
    rw [of_decide_eq_true same]
    decide
  have more := UnitDecoder.countP_decodePieces_lt (fun c => decide (c = Utf8.replacement))
    (decide_eq_true rfl) split
  obtain ⟨rest, line, rfl⟩ := (payload?_eq_some_iff _ _).mp whole
  obtain ⟨damagedRest, damagedLine, rfl⟩ := (payload?_eq_some_iff _ _).mp cut
  rw [show utf8.decode pieces.flatten = _ from line, damagedLine, List.countP_append,
    List.countP_append] at more
  rw [countP_trimChars visible, countP_trimChars visible]
  exact Nat.lt_of_add_lt_add_left more

/-- A cut that splits a character of a data line shows in the data. -/
theorem exists_payload?_of_split {pieces : List (List UInt8)} {data : List Char}
    (split : ¬utf8.Whole pieces)
    (whole : payload? (fromUtf8Lossy pieces.flatten) = some data) :
    ∃ damaged, payload? (utf8.decodePieces pieces) = some damaged ∧
      damaged ≠ data ∧ damaged ≠ doneMark := by
  have found := isSome_payload?_pieces pieces
  rw [whole, Option.isSome_some, Option.isSome_iff_exists] at found
  obtain ⟨damaged, cut⟩ := found
  have more := countP_data_lt split whole cut
  refine ⟨damaged, cut, ?_, ?_⟩
  · rintro rfl
    exact Nat.lt_irrefl _ more
  · rintro rfl
    exact Nat.not_lt_zero _ more

/-! ### Whole bodies

A cut body is read line by line as the whole one, as long as every line is read alike; the first
line that is not decides the difference. -/

/-- The lines that are read from the chunks, and from the body in one piece. -/
theorem payloads_decodePieces (chunks : List (List UInt8)) :
    payloads (utf8.decodePieces chunks) =
      linePayloads ((pieceLines 0x0A chunks).map utf8.decodePieces) := by
  rw [payloads, newline_plain.decodePieces_splitOn]

/-- The data lines of the whole body are those of its lines, each read in one piece. -/
theorem payloads_flatten (chunks : List (List UInt8)) :
    payloads (fromUtf8Lossy chunks.flatten) =
      linePayloads ((pieceLines 0x0A chunks).map fun pieces => fromUtf8Lossy pieces.flatten) := by
  rw [payloads, fromUtf8Lossy, newline_plain.decode_splitOn, ← pieceLines_flatten, List.map_map]
  rfl

variable (fromStr : String → Except String Value)

/-- What two lines make of what follows is equal exactly when the lines are read alike and, if
reading goes on, so is what follows. -/
theorem LineEvent.followedBy_eq_iff {event event' : LineEvent} {later later' : SseOutcome}
    (sameKind : event = .skip ↔ event' = .skip) :
    event.followedBy later = event'.followedBy later' ↔
      event = event' ∧ (event'.goesOn = true → later = later') := by
  cases later
  cases later'
  cases event <;> cases event' <;>
    simp_all [LineEvent.followedBy, LineEvent.goesOn, SseOutcome.yield, and_assoc]

/-- Whether a line is skipped does not depend on where it is cut: the field name is never cut inside
a character. -/
theorem readLine_pieces_skip_iff (pieces : List (List UInt8)) :
    readLine fromStr (utf8.decodePieces pieces) = .skip ↔
      readLine fromStr (fromUtf8Lossy pieces.flatten) = .skip := by
  rw [readLine_eq_skip_iff, readLine_eq_skip_iff, ← Option.not_isSome_iff_eq_none,
    isSome_payload?_pieces, Option.not_isSome_iff_eq_none]

/-- The lines say the same in pieces exactly if the cut does not show. -/
theorem parsePayloads_eq_iff (lines : List (List (List UInt8))) :
    parsePayloads fromStr (linePayloads (lines.map utf8.decodePieces)) =
        parsePayloads fromStr
          (linePayloads (lines.map fun pieces => fromUtf8Lossy pieces.flatten)) ↔
      LinesReadAlike fromStr lines := by
  induction lines with
  | nil => exact iff_of_true rfl trivial
  | cons pieces rest ih =>
      have unsplit : utf8.Whole pieces →
          readLine fromStr (utf8.decodePieces pieces) =
            readLine fromStr (fromUtf8Lossy pieces.flatten) := by
        intro whole
        rw [UnitDecoder.decodePieces_of_whole whole]
        rfl
      rw [List.map_cons, List.map_cons, parsePayloads_cons, parsePayloads_cons,
        LineEvent.followedBy_eq_iff (readLine_pieces_skip_iff fromStr pieces), ih, LinesReadAlike,
        or_iff_right_of_imp unsplit]

variable {fromStr}

/-- Data lines that are cut between characters are read alike, whatever the decoder of values is. -/
theorem LinesReadAlike.of_whole {lines : List (List (List UInt8))} (whole : DataLinesWhole lines) :
    LinesReadAlike fromStr lines := by
  induction lines with
  | nil => trivial
  | cons pieces rest ih =>
      rw [DataLinesWhole] at whole
      rw [LinesReadAlike]
      cases data? : payload? (fromUtf8Lossy pieces.flatten) with
      | none =>
          have skips := (readLine_eq_skip_iff fromStr _).mpr data?
          rw [data?] at whole
          exact ⟨.inr (((readLine_pieces_skip_iff fromStr pieces).mpr skips).trans skips.symm),
            fun _ => ih whole⟩
      | some data =>
          rw [data?] at whole
          refine ⟨.inl whole.1, fun goesOn => ?_⟩
          rcases whole.2 with done | later
          · simp [readLine, data?, done, LineEvent.goesOn] at goesOn
          · exact ih later

/-- A parser that keeps every text apart. -/
def echo (text : String) : Except String Value :=
  .ok (.string text)

/-- A decoder that echoes its text shows the data of the line. -/
theorem readLine_echo {line data : List Char} (found : payload? line = some data) :
    readLine echo line = if data = doneMark then .done else .value (.string (.ofList data)) := by
  rw [readLine, found]
  rfl

/-- A data line that is cut inside a character has other data, which the echoing decoder shows. -/
theorem readLine_echo_ne_of_split {pieces : List (List UInt8)} {data : List Char}
    (split : ¬utf8.Whole pieces)
    (whole : payload? (fromUtf8Lossy pieces.flatten) = some data) :
    readLine echo (utf8.decodePieces pieces) ≠ readLine echo (fromUtf8Lossy pieces.flatten) := by
  obtain ⟨damaged, cut, differs, notDone⟩ := exists_payload?_of_split split whole
  rw [readLine_echo cut, readLine_echo whole, if_neg notDone]
  by_cases done : data = doneMark
  · simp [done]
  · simp [done, String.ofList_inj, differs]

/-- If the echoing decoder reads all lines alike, no data line is cut inside a character. -/
theorem DataLinesWhole.of_echo {lines : List (List (List UInt8))}
    (alike : LinesReadAlike echo lines) : DataLinesWhole lines := by
  induction lines with
  | nil => trivial
  | cons pieces rest ih =>
      obtain ⟨same, later⟩ := alike
      rw [DataLinesWhole]
      cases data? : payload? (fromUtf8Lossy pieces.flatten) with
      | none =>
          apply ih
          apply later
          rw [(readLine_eq_skip_iff echo _).mpr data?]
          rfl
      | some data =>
          refine ⟨?_, ?_⟩
          · by_contra split
            exact readLine_echo_ne_of_split split data? (same.resolve_left split)
          · rw [readLine_echo data?] at later
            by_cases done : data = doneMark
            · exact .inl done
            · rw [if_neg done] at later
              exact .inr (ih (later rfl))

/-- The worker's results tell what was read and how reading ended. -/
theorem SseOutcome.toStream_injective {outcome outcome' : SseOutcome}
    (same : outcome.toStream false = outcome'.toStream false) : outcome = outcome' := by
  obtain ⟨values, ending⟩ := outcome
  obtain ⟨values', ending'⟩ := outcome'
  induction values generalizing values' with
  | nil =>
      cases values' <;> cases ending <;> cases ending' <;> simp_all [SseOutcome.toStream]
  | cons value values ih =>
      cases values' with
      | nil => cases ending' <;> simp [SseOutcome.toStream] at same
      | cons value' values' =>
          obtain ⟨first, rest⟩ := List.cons.inj same
          cases first
          cases ih values' rest
          rfl

/-- A cut body is read as the whole one exactly when its lines are. -/
theorem readsAsOne_iff (chunks : List (List UInt8)) :
    ReadsAsOne fromStr chunks ↔ LinesReadAlike fromStr (pieceLines 0x0A chunks) := by
  have inPieces : sseLoop fromStr [] chunks none =
      parsePayloads fromStr
        (linePayloads ((pieceLines 0x0A chunks).map utf8.decodePieces)) := by
    rw [sseLoop_eq fromStr [] chunks rfl, List.nil_append, payloads_decodePieces]
  have joined : expected fromStr chunks.flatten =
      parsePayloads fromStr
        (linePayloads ((pieceLines 0x0A chunks).map fun pieces =>
          fromUtf8Lossy pieces.flatten)) := by
    rw [expected, payloads_flatten]
  have oneChunk : sseLoop fromStr [] [chunks.flatten] none = expected fromStr chunks.flatten := by
    rw [sseLoop_eq fromStr [] _ rfl, UnitDecoder.decodePieces_singleton]
    rfl
  rw [← parsePayloads_eq_iff, ← inPieces, ← joined]
  constructor
  · intro independent
    exact SseOutcome.toStream_injective independent.workerReads
  · intro same
    constructor
    · intro scrub
      rw [streamCompletion, streamCompletion, same, oneChunk]
    · rw [collectSseChunks, collectSseChunks, same, oneChunk]
    · rw [streamCompletion, same]
    · rw [collectSseChunks, same]

/-! ### Values before an error

The worker yields values as it reads them, and then the error; `collect_sse_chunks` returns the
error alone. The two agree unless a malformed data line comes after a value. -/

/-- The worker has yielded the values when an error ends its stream. -/
theorem streamValues_toStream (outcome : SseOutcome) :
    streamValues (outcome.toStream false) = outcome.values := by
  obtain ⟨values, ending⟩ := outcome
  have before : ∀ last, streamValues last = [] →
      streamValues (values.map .ok ++ last) = values := by
    intro last silent
    have kept : streamValues (values.map .ok) = values := by
      rw [streamValues, List.filterMap_map]
      exact List.filterMap_some
    unfold streamValues at *
    rw [List.filterMap_append, kept, silent, List.append_nil]
  cases ending <;> exact before _ rfl

/-- A reader that returns its values or its error keeps all values exactly when there is no error,
or no value before it. -/
theorem resultValues_toResult_iff (outcome : SseOutcome) :
    resultValues outcome.toResult = outcome.values ↔
      outcome.ending = .finished ∨ outcome.values = [] := by
  obtain ⟨values, ending⟩ := outcome
  cases ending <;> simp [SseOutcome.toResult, resultValues, eq_comm]

/-- Reading finishes after a line exactly when the line is the end mark, or reading goes on and
finishes later. -/
theorem ending_followedBy (event : LineEvent) (later : SseOutcome) :
    (event.followedBy later).ending = .finished ↔
      event = .done ∨ event.goesOn = true ∧ later.ending = .finished := by
  cases event <;> simp [LineEvent.followedBy, LineEvent.goesOn, SseOutcome.yield]

/-- No line is malformed before the end exactly when reading finishes. -/
theorem noError_iff (lines : List (List Char)) :
    NoError fromStr lines ↔ (parsePayloads fromStr (linePayloads lines)).ending = .finished := by
  induction lines with
  | nil => exact iff_of_true trivial rfl
  | cons line rest ih =>
      rw [parsePayloads_cons, ending_followedBy, ← ih, NoError]
      cases readLine fromStr line <;> simp [LineEvent.goesOn]

/-- No malformed line is read after a value exactly when reading finishes or yields no value. -/
theorem noErrorAfterValue_iff (lines : List (List Char)) :
    NoErrorAfterValue fromStr lines ↔
      (parsePayloads fromStr (linePayloads lines)).ending = .finished ∨
        (parsePayloads fromStr (linePayloads lines)).values = [] := by
  induction lines with
  | nil => exact iff_of_true trivial (.inl rfl)
  | cons line rest ih =>
      rw [parsePayloads_cons, NoErrorAfterValue]
      cases readLine fromStr line with
      | skip => exact ih
      | done => exact iff_of_true trivial (.inl rfl)
      | malformed message => exact iff_of_true trivial (.inr rfl)
      | value value =>
          rw [noError_iff]
          exact (or_iff_left (List.cons_ne_nil _ _)).symm

/-- The values do not depend on the cuts, for both readers, exactly when every line is read alike
and no malformed data line is read after a value. -/
theorem cutIndependent_iff (chunks : List (List UInt8)) :
    CutIndependent fromStr chunks ↔
      LinesReadAlike fromStr (pieceLines 0x0A chunks) ∧
        NoErrorAfterValue fromStr ((fromUtf8Lossy chunks.flatten).splitOn '\n') := by
  have kept : NoErrorAfterValue fromStr ((fromUtf8Lossy chunks.flatten).splitOn '\n') ↔
      resultValues (expected fromStr chunks.flatten).toResult =
        (expected fromStr chunks.flatten).values := by
    rw [resultValues_toResult_iff, noErrorAfterValue_iff]
    rfl
  rw [kept, ← readsAsOne_iff]
  constructor
  · intro independent
    refine ⟨independent.toReadsAsOne, ?_⟩
    rw [← independent.clientReads]
    exact independent.clientValues
  · rintro ⟨asOne, sameAsRead⟩
    have workerValues := congrArg streamValues asOne.workerReads
    have clientValues := congrArg resultValues asOne.clientReads
    rw [streamValues_toStream] at workerValues
    rw [sameAsRead] at clientValues
    exact ⟨asOne, workerValues, clientValues, workerValues.trans clientValues.symm⟩

/-- With a given parser the readers give what the body says exactly if no cut splits a character
of a data line so that the parser reads the line differently, and no malformed line follows a value.
As for the cut alone, it shows with some parser exactly if it splits a character of a data line. -/
theorem cut_independent_iff (chunks : List (List UInt8)) :
    (∀ fromStr, CutIndependent fromStr chunks ↔
        LinesReadAlike fromStr (pieceLines 0x0A chunks) ∧
          NoErrorAfterValue fromStr ((fromUtf8Lossy chunks.flatten).splitOn '\n')) ∧
      ((∀ fromStr, ReadsAsOne fromStr chunks) ↔ DataLinesWhole (pieceLines 0x0A chunks)) ∧
        ∀ fromStr,
          ReadsAsOne fromStr chunks ↔ LinesReadAlike fromStr (pieceLines 0x0A chunks) := by
  refine ⟨fun fromStr => cutIndependent_iff chunks,
    ⟨fun independent => ?_, fun whole fromStr => ?_⟩, fun fromStr => readsAsOne_iff chunks⟩
  · exact .of_echo ((readsAsOne_iff chunks).mp (independent echo))
  · exact (readsAsOne_iff chunks).mpr (.of_whole whole)

/-- A parser of the JSON strings that have no escapes. -/
def readQuoted (text : String) : Except String Value :=
  match text.toList with
  | '"' :: rest =>
      if rest.getLast? = some '"' then .ok (.string (.ofList rest.dropLast))
      else .error "EOF while parsing a string"
  | _ => .error "expected value at line 1 column 1"

/-- The body `data:"é"` with a cut inside the character. -/
theorem not_cutIndependent :
    ¬CutIndependent readQuoted
      [[0x64, 0x61, 0x74, 0x61, 0x3A, 0x22, 0xC3], [0xA9, 0x22, 0x0A]] := by
  intro independent
  have same := independent.clientReads
  rw [collectSseChunks, sseLoop_eq _ _ _ rfl] at same
  exact absurd same (by decide +kernel)

/-- The bytes of `data:"a"` and `data:x`, each on a line, in one chunk: the client loses the value
that the worker has yielded. -/
example :
    ¬CutIndependent readQuoted
      [[0x64, 0x61, 0x74, 0x61, 0x3A, 0x22, 0x61, 0x22, 0x0A,
        0x64, 0x61, 0x74, 0x61, 0x3A, 0x78, 0x0A]] := by
  intro independent
  have same := independent.sameValues
  rw [streamCompletion, collectSseChunks, sseLoop_eq _ _ _ rfl] at same
  exact absurd same (by decide +kernel)

end ProstheticConscience.Gateway
