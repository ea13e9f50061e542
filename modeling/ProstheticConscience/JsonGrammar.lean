/-
Module: ProstheticConscience.JsonGrammar
Purpose: Which texts are JSON texts, and of which values.
Trusted boundary: the value that a number literal is read as is a parameter
Main exports: Json.CharText, Json.StringText, Json.Reads, Json.ParsesTo, Json.Plain,
  Json.Reads.weight_le_of_member, Json.memberText_reads_back_iff
-/
import ProstheticConscience.Json

namespace ProstheticConscience.Json

/-! ### White space, literals and numbers -/

def isBlank (c : Char) : Bool :=
  c = ' ' || c = '\t' || c = '\n' || c = '\r'

def Blank (text : List Char) : Prop :=
  text.all isBlank = true

instance (text : List Char) : Decidable (Blank text) :=
  inferInstanceAs (Decidable (_ = true))

/-- An exponent, or nothing. -/
def isExponent : List Char → Bool
  | [] => true
  | mark :: rest =>
      let digits := match rest with
        | '+' :: digits => digits
        | '-' :: digits => digits
        | digits => digits
      (mark = 'e' || mark = 'E') && !digits.isEmpty && digits.all Char.isDigit

/-- A fraction and an exponent, or either, or nothing. -/
def isFraction : List Char → Bool
  | '.' :: rest =>
      !(rest.takeWhile Char.isDigit).isEmpty && isExponent (rest.dropWhile Char.isDigit)
  | rest => isExponent rest

/-- A number literal: no leading zeros, and digits on both sides of a decimal point. -/
def isNumber (text : List Char) : Bool :=
  let unsigned := match text with
    | '-' :: rest => rest
    | rest => rest
  let digits := unsigned.takeWhile Char.isDigit
  !digits.isEmpty && (digits.head? ≠ some '0' || digits.length = 1) &&
    isFraction (unsigned.dropWhile Char.isDigit)

example : ["0", "-12.5e+3", "01", "1.", ".5", "1e"].map (fun text => isNumber text.toList) =
    [true, true, false, false, false, false] := by decide

/-! ### Strings -/

/-- A character that stands for itself in a string. -/
def isPlain (c : Char) : Bool :=
  c ≠ '"' && c ≠ '\\' && 0x20 ≤ c.toNat

/-- A text that stands for itself in a string. -/
def Plain (text : String) : Prop :=
  text.toList.all isPlain = true

instance (text : String) : Decidable (Plain text) :=
  inferInstanceAs (Decidable (_ = true))

/-- What follows a backslash, and what it stands for. -/
def escapes : List (Char × Char) :=
  [('"', '"'), ('\\', '\\'), ('/', '/'), ('b', .ofNat 8), ('f', .ofNat 12), ('n', '\n'),
    ('r', '\r'), ('t', '\t')]

def hexDigit? (c : Char) : Option Nat :=
  if c.isDigit then some (c.toNat - '0'.toNat)
  else if 'a' ≤ c ∧ c ≤ 'f' then some (c.toNat - 'a'.toNat + 10)
  else if 'A' ≤ c ∧ c ≤ 'F' then some (c.toNat - 'A'.toNat + 10)
  else none

/-- Four hexadecimal digits. -/
def hex4? (digits : List Char) : Option Nat :=
  if digits.length = 4 then
    digits.foldlM (fun value c => (hexDigit? c).map fun digit => 16 * value + digit) 0
  else none

/-- The ways to write a character in a string. -/
inductive CharText : Char → List Char → Prop where
  | plain (c : Char) (isPlain : isPlain c = true) : CharText c [c]
  | escaped (letter c : Char) (escape : (letter, c) ∈ escapes) : CharText c ['\\', letter]
  | unicode (digits : List Char) (code : Nat) (reads : hex4? digits = some code)
      (scalar : code < 0xD800 ∨ 0xDFFF < code) : CharText (.ofNat code) ('\\' :: 'u' :: digits)
  | surrogates (high low : List Char) (first second : Nat) (readsHigh : hex4? high = some first)
      (readsLow : hex4? low = some second) (isHigh : 0xD800 ≤ first ∧ first ≤ 0xDBFF)
      (isLow : 0xDC00 ≤ second ∧ second ≤ 0xDFFF) :
      CharText (.ofNat (0x10000 + (first - 0xD800) * 0x400 + (second - 0xDC00)))
        ('\\' :: 'u' :: (high ++ '\\' :: 'u' :: low))

/-- The ways to write text between quotes. -/
inductive StringText : List Char → List Char → Prop where
  | nil : StringText [] []
  | cons {c : Char} {written : List Char} {chars rest : List Char} (head : CharText c written)
      (tail : StringText chars rest) : StringText (c :: chars) (written ++ rest)

def quoted (written : List Char) : List Char :=
  '"' :: (written ++ ['"'])

/-! ### Values -/

section Grammar

variable (readNumber : List Char → Option Number)

mutual

/-- A text without white space around it is the text of a value. -/
inductive Reads : List Char → Value → Prop where
  | null : Reads "null".toList .null
  | false : Reads "false".toList (.bool false)
  | true : Reads "true".toList (.bool true)
  | number {text : List Char} {value : Number} (literal : isNumber text = true)
      (read : readNumber text = some value) : Reads text (.number value)
  | string {text : String} {written : List Char} (reads : StringText text.toList written) :
      Reads (quoted written) (.string text)
  | emptyArray {blank : List Char} (isBlank : Blank blank) :
      Reads ('[' :: (blank ++ [']'])) (.array [])
  | array {body : List Char} {items : List Value} (reads : ReadsItems body items) :
      Reads ('[' :: (body ++ [']'])) (.array items)
  | emptyObject {blank : List Char} (isBlank : Blank blank) :
      Reads ('\x7b' :: (blank ++ ['\x7d'])) (.ofMembers [])
  | object {body : List Char} {members : List (String × Value)}
      (reads : ReadsMembers body members) :
      Reads ('\x7b' :: (body ++ ['\x7d'])) (.ofMembers members)

/-- The items of an array, separated by commas. -/
inductive ReadsItems : List Char → List Value → Prop where
  | single {before text after : List Char} {value : Value} (blankBefore : Blank before)
      (reads : Reads text value) (blankAfter : Blank after) :
      ReadsItems (before ++ text ++ after) [value]
  | cons {before text after rest : List Char} {value : Value} {items : List Value}
      (blankBefore : Blank before) (reads : Reads text value) (blankAfter : Blank after)
      (later : ReadsItems rest items) :
      ReadsItems (before ++ text ++ after ++ ',' :: rest) (value :: items)

/-- The members of an object, separated by commas. -/
inductive ReadsMembers : List Char → List (String × Value) → Prop where
  | single {start key middle gap text after : List Char} {name : String} {value : Value}
      (blankStart : Blank start) (readsKey : StringText name.toList key)
      (blankMiddle : Blank middle) (blankGap : Blank gap) (reads : Reads text value)
      (blankAfter : Blank after) :
      ReadsMembers (start ++ quoted key ++ middle ++ ':' :: (gap ++ text ++ after)) [(name, value)]
  | cons {start key middle gap text after rest : List Char} {name : String} {value : Value}
      {members : List (String × Value)} (blankStart : Blank start)
      (readsKey : StringText name.toList key) (blankMiddle : Blank middle) (blankGap : Blank gap)
      (reads : Reads text value) (blankAfter : Blank after) (later : ReadsMembers rest members) :
      ReadsMembers (start ++ quoted key ++ middle ++ ':' :: (gap ++ text ++ after ++ ',' :: rest))
        ((name, value) :: members)

end

/-- A JSON text of a value, perhaps with white space around it. -/
def ParsesTo (text : String) (value : Value) : Prop :=
  ∃ before body after, Blank before ∧ Blank after ∧ text.toList = before ++ body ++ after ∧
    Reads readNumber body value

/-! ### How long a text has to be

A text is at least as long as what it says, from which it follows that a text with a character that
needs an escape is not the text it stands for. -/

/-- How many characters it takes at least to write some text between quotes. -/
def weight : List Char → Nat
  | [] => 0
  | c :: rest => (if isPlain c then 1 else 2) + weight rest

/-- Every character counts once at least. -/
theorem length_le_weight (text : List Char) : text.length ≤ weight text := by
  induction text with
  | nil => exact Nat.le_refl _
  | cons c rest ih =>
      rw [weight, List.length_cons]
      split <;> omega

/-- Only text that stands for itself can be written in its own length. -/
theorem plain_of_weight_le {text : String} (short : weight text.toList ≤ text.toList.length) :
    Plain text := by
  unfold Plain
  rw [List.all_eq_true]
  generalize text.toList = chars at short ⊢
  induction chars with
  | nil => simp
  | cons c rest ih =>
      have least := length_le_weight rest
      rw [weight, List.length_cons] at short
      split at short
      · rename_i plain
        intro other member
        rcases List.mem_cons.mp member with rfl | member
        · exact plain
        · exact ih (by omega) other member
      · omega

/-- A character takes as much text as it weighs. -/
theorem CharText.weight_le {c : Char} {written : List Char} (reads : CharText c written) :
    (if isPlain c then 1 else 2) ≤ written.length := by
  have atMost : (if isPlain c then 1 else 2) ≤ 2 := by
    split <;> omega
  cases reads with
  | plain _ plain =>
      rw [if_pos plain]
      exact Nat.le_refl _
  | escaped letter escape => exact atMost
  | unicode digits code =>
      simp only [List.length_cons]
      omega
  | surrogates high low =>
      simp only [List.length_cons]
      omega

/-- A string takes as much text as its characters weigh. -/
theorem StringText.weight_le {chars written : List Char} (reads : StringText chars written) :
    weight chars ≤ written.length := by
  induction reads with
  | nil => exact Nat.le_refl _
  | cons head tail ih =>
      have headWeight := head.weight_le
      rw [weight, List.length_append]
      omega

variable {readNumber}

/-- The text of a string has its quotation marks besides. -/
theorem Reads.weight_string_le {text : List Char} {value : String}
    (reads : Reads readNumber text (.string value)) :
    weight value.toList + 2 ≤ text.length := by
  cases reads with
  | string written =>
      have least := written.weight_le
      simp only [quoted, List.length_cons, List.length_append, List.length_nil]
      omega

/-- A member has room among the members of an object. -/
theorem ReadsMembers.weight_le {body : List Char} {members : List (String × Value)}
    (reads : ReadsMembers readNumber body members) {name value : String}
    (member : (name, .string value) ∈ members) :
    weight name.toList + weight value.toList + 5 ≤ body.length :=
  match reads with
  | .single _ readsKey _ _ readsValue _ => by
      have keyLeast := readsKey.weight_le
      cases List.mem_singleton.mp member
      have valueLeast := readsValue.weight_string_le
      simp only [quoted, List.length_cons, List.length_append, List.length_nil]
      omega
  | .cons _ readsKey _ _ readsValue _ later => by
      simp only [quoted, List.length_cons, List.length_append, List.length_nil]
      rcases List.mem_cons.mp member with same | member
      · cases same
        have keyLeast := readsKey.weight_le
        have valueLeast := readsValue.weight_string_le
        omega
      · have least := later.weight_le member
        omega

/-- An object with a text member has room for it. -/
theorem Reads.weight_le_of_member {text : List Char} {object : Value}
    (reads : Reads readNumber text object) {name value : String}
    (found : object.get name = some (.string value)) :
    weight name.toList + weight value.toList + 7 ≤ text.length := by
  cases reads with
  | object reads =>
      rw [Value.get_ofMembers] at found
      obtain ⟨later, earlier, split, _⟩ := List.lookup_eq_some_iff.mp found
      have member : (name, Value.string value) ∈ later ++ (name, .string value) :: earlier :=
        List.mem_append_right later List.mem_cons_self
      rw [← split, List.mem_reverse] at member
      have least := reads.weight_le member
      simp only [List.length_cons, List.length_append, List.length_nil]
      omega
  | emptyObject => cases found
  | _ => cases found

/-! ### An object with one member -/

/-- A plain text stands for itself between quotation marks. -/
theorem Plain.stringText {text : String} (plain : Plain text) :
    StringText text.toList text.toList := by
  unfold Plain at plain
  rw [List.all_eq_true] at plain
  generalize text.toList = chars at plain ⊢
  induction chars with
  | nil => exact .nil
  | cons c rest ih =>
      apply StringText.cons (.plain c (plain c List.mem_cons_self))
      exact ih fun other member => plain other (List.mem_cons_of_mem _ member)

theorem blank_nil : Blank [] :=
  rfl

/-- Text put between quotes unescaped, as the only member of an object. -/
def memberText (name text : String) : String :=
  "\x7b\"" ++ name ++ "\":\"" ++ text ++ "\"\x7d"

/-- The characters of an object with one text member. -/
theorem toList_memberText (name text : String) : (memberText name text).toList =
    '\x7b' :: (quoted name.toList ++ ':' :: quoted text.toList ++ ['\x7d']) := by
  simp [memberText, quoted]

/-- An object with one plain text member is written as it stands. -/
theorem parsesTo_memberText {name text : String} (plainName : Plain name) (plain : Plain text) :
    ParsesTo readNumber (memberText name text) (.ofMembers [(name, .string text)]) := by
  have member : ReadsMembers readNumber (quoted name.toList ++ ':' :: quoted text.toList)
      [(name, .string text)] := by
    have value : Reads readNumber (quoted text.toList) (.string text) := .string plain.stringText
    have single := ReadsMembers.single blank_nil plainName.stringText blank_nil blank_nil value
      blank_nil
    simpa using single
  refine ⟨[], _, [], blank_nil, blank_nil, ?_, .object member⟩
  rw [toList_memberText]
  simp

/-- Text put between quotes unescaped is what is read back if and only if it stands for itself. -/
theorem memberText_reads_back_iff {name : String} (plainName : Plain name) (text : String) :
    (∃ value, ParsesTo readNumber (memberText name text) value ∧
      value.get name = some (.string text)) ↔ Plain text := by
  constructor
  · rintro ⟨value, ⟨before, body, after, _, _, same, reads⟩, found⟩
    apply plain_of_weight_le
    have least := reads.weight_le_of_member found
    have nameLeast := length_le_weight name.toList
    have length := congrArg List.length same
    rw [toList_memberText] at length
    simp only [quoted, List.length_cons, List.length_append, List.length_nil] at length
    omega
  · intro plain
    refine ⟨_, parsesTo_memberText plainName plain, ?_⟩
    rw [Value.get_ofMembers]
    simp

end Grammar

end ProstheticConscience.Json
