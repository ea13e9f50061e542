/-
Module: ProstheticConscience.JsonPrint
Purpose: JSON texts as the JSON library prints them, without white space.  A printed text is a JSON
  text of the value; it stands on one line, and trimming leaves it as it is.
Trusted boundary: how a number is printed, and how it is read, are parameters
Main exports: Json.print, Json.Ordered, Json.PrintsNumbers, Json.reads_print,
  Json.parsesTo_print, Json.print_visible, Json.trimChars_print
-/
import Mathlib.Data.String.Basic
import ProstheticConscience.Wire
import ProstheticConscience.JsonGrammar
import ProstheticConscience.Text

namespace ProstheticConscience.Json

def hexDigit (n : Nat) : Char :=
  if n < 10 then .ofNat (0x30 + n) else .ofNat (0x57 + n)

/-- A character between quotes. -/
def printChar (c : Char) : List Char :=
  if c = '"' then ['\\', '"']
  else if c = '\\' then ['\\', '\\']
  else if c = .ofNat 8 then ['\\', 'b']
  else if c = .ofNat 12 then ['\\', 'f']
  else if c = '\n' then ['\\', 'n']
  else if c = '\r' then ['\\', 'r']
  else if c = '\t' then ['\\', 't']
  else if c.toNat < 0x20 then
    ['\\', 'u', '0', '0', hexDigit (c.toNat / 16), hexDigit (c.toNat % 16)]
  else [c]

def printString (text : String) : List Char :=
  quoted (text.toList.flatMap printChar)

section Print

variable (printNumber : Number → List Char)

mutual

def print : Value → List Char
  | .null => "null".toList
  | .bool true => "true".toList
  | .bool false => "false".toList
  | .number value => printNumber value
  | .string text => printString text
  | .array items => '[' :: (printItems items ++ [']'])
  | .object members => '\x7b' :: (printMembers members ++ ['\x7d'])

def printItems : List Value → List Char
  | [] => []
  | [item] => print item
  | item :: next :: rest => print item ++ ',' :: printItems (next :: rest)

def printMembers : List (String × Value) → List Char
  | [] => []
  | [(key, value)] => printString key ++ ':' :: print value
  | (key, value) :: next :: rest =>
      printString key ++ ':' :: (print value ++ ',' :: printMembers (next :: rest))

end

end Print

example : String.ofList (print (fun _ => ['7'])
    (.object [("a\n", .array [.null, .bool true]), ("b", .number (.posInt 7))])) =
      "\x7b\"a\\n\":[null,true],\"b\":7\x7d" := by decide +kernel

/-! ### Members in key order -/

/-- The members stand in the order of their keys, each once. -/
def Sorted (members : List (String × Value)) : Prop :=
  members.Pairwise fun earlier later => earlier.1 < later.1

theorem sorted_cons {member : String × Value} {rest : List (String × Value)} :
    Sorted (member :: rest) ↔ (∀ later ∈ rest, member.1 < later.1) ∧ Sorted rest :=
  List.pairwise_cons

/-- The members of every object in the value stand in the order of their keys. -/
inductive Ordered : Value → Prop where
  | null : Ordered .null
  | bool (value : Bool) : Ordered (.bool value)
  | number (value : Number) : Ordered (.number value)
  | string (text : String) : Ordered (.string text)
  | array {items : List Value} (each : ∀ item ∈ items, Ordered item) : Ordered (.array items)
  | object {members : List (String × Value)} (sorted : Sorted members)
      (each : ∀ member ∈ members, Ordered member.2) : Ordered (.object members)

/-- Inserting a member adds nothing but this member. -/
theorem mem_insertMember {key : String} {value : Value} {members : List (String × Value)}
    {member : String × Value} (inside : member ∈ Value.insertMember key value members) :
    member = (key, value) ∨ member ∈ members := by
  induction members with
  | nil => exact .inl (List.mem_singleton.mp inside)
  | cons first rest ih =>
      unfold Value.insertMember at inside
      split at inside
      · exact (List.mem_cons.mp inside).imp_right (List.mem_cons_of_mem _)
      · split at inside
        · exact List.mem_cons.mp inside
        · rcases List.mem_cons.mp inside with rfl | later
          · exact .inr List.mem_cons_self
          · exact (ih later).imp_right (List.mem_cons_of_mem _)

/-- Inserting a member keeps the names in order. -/
theorem insertMember_sorted (key : String) (value : Value) {members : List (String × Value)}
    (sorted : Sorted members) : Sorted (Value.insertMember key value members) := by
  induction members with
  | nil => exact List.pairwise_singleton _ _
  | cons first rest ih =>
      obtain ⟨least, later⟩ := sorted_cons.mp sorted
      unfold Value.insertMember
      split
      · rename_i same
        exact sorted_cons.mpr ⟨same ▸ least, later⟩
      · rename_i differs
        split
        · rename_i before
          refine sorted_cons.mpr ⟨fun other member => ?_, sorted⟩
          rcases List.mem_cons.mp member with rfl | inRest
          · exact before
          · exact before.trans (least other inRest)
        · rename_i notBefore
          refine sorted_cons.mpr ⟨fun other member => ?_, ih later⟩
          rcases mem_insertMember member with rfl | inRest
          · exact lt_of_le_of_ne (not_lt.mp notBefore) (Ne.symm differs)
          · exact least other inRest

/-- A key beyond all others goes to the end. -/
theorem insertMember_last {key : String} {members : List (String × Value)} (value : Value)
    (last : ∀ member ∈ members, member.1 < key) :
    Value.insertMember key value members = members ++ [(key, value)] := by
  induction members with
  | nil => rfl
  | cons first rest ih =>
      have before : first.1 < key := last first List.mem_cons_self
      rw [Value.insertMember, if_neg before.ne', if_neg before.asymm,
        ih fun member inRest => last member (List.mem_cons_of_mem _ inRest), List.cons_append]

/-- Writing members in key order leaves them as they are. -/
theorem ofMembers_sorted {members : List (String × Value)} (sorted : Sorted members) :
    Value.ofMembers members = .object members := by
  have grown : ∀ acc : List (String × Value), Sorted (acc ++ members) →
      members.foldl (fun acc member => Value.insertMember member.1 member.2 acc) acc =
        acc ++ members := by
    clear sorted
    induction members with
    | nil => exact fun acc _ => (List.append_nil acc).symm
    | cons first rest ih =>
        intro acc sorted
        have last : ∀ member ∈ acc, member.1 < first.1 := fun member inside =>
          (List.pairwise_append.mp sorted).2.2 member inside first List.mem_cons_self
        rw [List.append_cons] at sorted ⊢
        rw [List.foldl_cons, insertMember_last first.2 last, ih _ sorted]
  exact congrArg Value.object (grown [] sorted)

/-- An object that is made of ordered values is ordered, whatever order its members were given in.
-/
theorem ordered_ofMembers {members : List (String × Value)}
    (each : ∀ member ∈ members, Ordered member.2) : Ordered (.ofMembers members) := by
  have kept : ∀ acc : List (String × Value), Ordered (.object acc) →
      Ordered (.object (members.foldl
        (fun acc member => Value.insertMember member.1 member.2 acc) acc)) := by
    induction members with
    | nil => exact fun acc ordered => ordered
    | cons first rest ih =>
        intro acc ordered
        cases ordered with
        | object sorted inner =>
            apply ih fun member inRest => each member (List.mem_cons_of_mem _ inRest)
            refine .object (insertMember_sorted first.1 first.2 sorted) fun member inside => ?_
            rcases mem_insertMember inside with rfl | before
            · exact each first List.mem_cons_self
            · exact inner member before
  exact kept [] (.object List.Pairwise.nil fun member inside => absurd inside List.not_mem_nil)

/-! ### A printed text is a text of its value

By induction on the value; members are printed in the order of their names, as the sorted map of the
source yields them. -/

/-- A printed hexadecimal digit is read back. -/
theorem hexDigit?_hexDigit : ∀ n < 16, hexDigit? (hexDigit n) = some n := by decide

/-- The four digits printed for a control character are read back as its number. -/
theorem hex4?_control {n : Nat} (control : n < 0x20) :
    hex4? ['0', '0', hexDigit (n / 16), hexDigit (n % 16)] = some n := by
  have zero : hexDigit? '0' = some 0 := by decide
  have upper := hexDigit?_hexDigit (n / 16) (by omega)
  have lower := hexDigit?_hexDigit (n % 16) (by omega)
  simp only [hex4?, List.length_cons, List.length_nil, List.foldlM_cons, List.foldlM_nil, zero,
    upper, lower, Option.map_some, Option.bind_eq_bind, Option.bind_some, Option.pure_def]
  simp
  omega

/-- A printed character is a text of this character; by the three ways in which characters are
printed. -/
theorem charText_printChar (c : Char) : CharText c (printChar c) := by
  unfold printChar
  split_ifs with quote backslash backspace formFeed newline carriage tab control
  · exact quote ▸ .escaped '"' '"' (by decide)
  · exact backslash ▸ .escaped '\\' '\\' (by decide)
  · exact backspace ▸ .escaped 'b' (.ofNat 8) (by decide)
  · exact formFeed ▸ .escaped 'f' (.ofNat 12) (by decide)
  · exact newline ▸ .escaped 'n' '\n' (by decide)
  · exact carriage ▸ .escaped 'r' '\r' (by decide)
  · exact tab ▸ .escaped 't' '\t' (by decide)
  · have written := CharText.unicode _ c.toNat (hex4?_control control) (by omega)
    rwa [Char.ofNat_toNat] at written
  · refine .plain c ?_
    simp only [isPlain, ne_eq, quote, backslash, not_false_eq_true, decide_true, Bool.and_self,
      Bool.true_and, decide_eq_true_eq]
    omega

/-- Printed characters, one after the other, are a text of the whole string. -/
theorem stringText_print (text : List Char) : StringText text (text.flatMap printChar) := by
  induction text with
  | nil => exact .nil
  | cons c rest ih =>
      rw [List.flatMap_cons]
      exact .cons (charText_printChar c) ih

/-- What is printed of a number is a literal that it is read from. -/
def PrintsNumbers (printNumber : Number → List Char) (readNumber : List Char → Option Number) :
    Prop :=
  ∀ number, isNumber (printNumber number) = true ∧
    readNumber (printNumber number) = some number

section RoundTrip

variable {printNumber : Number → List Char} {readNumber : List Char → Option Number}

mutual

/-- A printed value is a JSON text of it. -/
theorem reads_print (prints : PrintsNumbers printNumber readNumber) : ∀ value : Value,
    Ordered value → Reads readNumber (print printNumber value) value
  | .null, _ => .null
  | .bool true, _ => .true
  | .bool false, _ => .false
  | .number number, _ => .number (prints number).1 (prints number).2
  | .string text, _ => .string (stringText_print text.toList)
  | .array items, .array each => by
      cases items with
      | nil => exact .emptyArray blank_nil
      | cons item rest => exact .array (readsItems_print prints (item :: rest) each (by simp))
  | .object members, .object sorted each => by
      rw [← ofMembers_sorted sorted]
      cases members with
      | nil => exact .emptyObject blank_nil
      | cons member rest =>
          rw [ofMembers_sorted sorted, print, ← ofMembers_sorted sorted]
          exact .object (readsMembers_print prints (member :: rest) each (by simp))

/-- The items of an array are read back in order; by induction on them, along with the values
themselves. -/
theorem readsItems_print (prints : PrintsNumbers printNumber readNumber) : ∀ items : List Value,
    (∀ item ∈ items, Ordered item) → items ≠ [] →
      ReadsItems readNumber (printItems printNumber items) items
  | [], _, nonempty => absurd rfl nonempty
  | [item], each, _ => by
      have reads := reads_print prints item (each item List.mem_cons_self)
      simpa [printItems] using ReadsItems.single blank_nil reads blank_nil
  | item :: next :: rest, each, _ => by
      have reads := reads_print prints item (each item List.mem_cons_self)
      have later := readsItems_print prints (next :: rest)
        (fun inside member => each inside (List.mem_cons_of_mem _ member)) (by simp)
      simpa [printItems] using ReadsItems.cons blank_nil reads blank_nil later

/-- The members of an object are read back in order; by induction on them, along with the values
themselves. -/
theorem readsMembers_print (prints : PrintsNumbers printNumber readNumber) :
    ∀ members : List (String × Value), (∀ member ∈ members, Ordered member.2) → members ≠ [] →
      ReadsMembers readNumber (printMembers printNumber members) members
  | [], _, nonempty => absurd rfl nonempty
  | [(key, value)], each, _ => by
      have reads := reads_print prints value (each (key, value) List.mem_cons_self)
      simpa [printMembers, printString] using
        ReadsMembers.single blank_nil (stringText_print key.toList) blank_nil blank_nil reads
          blank_nil
  | (key, value) :: next :: rest, each, _ => by
      have reads := reads_print prints value (each (key, value) List.mem_cons_self)
      have later := readsMembers_print prints (next :: rest)
        (fun inside member => each inside (List.mem_cons_of_mem _ member)) (by simp)
      simpa [printMembers, printString] using
        ReadsMembers.cons blank_nil (stringText_print key.toList) blank_nil blank_nil reads
          blank_nil later

end

/-- What is printed for a value is a complete text of this value. -/
theorem parsesTo_print (prints : PrintsNumbers printNumber readNumber) {value : Value}
    (ordered : Ordered value) :
    ParsesTo readNumber (.ofList (print printNumber value)) value :=
  ⟨[], _, [], blank_nil, blank_nil, by simp, reads_print prints value ordered⟩

end RoundTrip

/-! ### The characters of a number -/

/-- The characters that number literals are made of. -/
def InNumber (c : Char) : Prop :=
  c.isDigit = true ∨ c ∈ ['-', '+', '.', 'e', 'E']

instance (c : Char) : Decidable (InNumber c) :=
  inferInstanceAs (Decidable (_ ∨ _))

/-- An exponent has only characters of numbers. -/
theorem isExponent_chars {text : List Char} (exponent : isExponent text = true) :
    ∀ c ∈ text, InNumber c := by
  cases text with
  | nil => exact fun _ none => absurd none List.not_mem_nil
  | cons mark rest =>
      simp only [isExponent, Bool.and_eq_true, Bool.or_eq_true, decide_eq_true_eq,
        List.all_eq_true] at exponent
      obtain ⟨⟨marked, _⟩, digits⟩ := exponent
      intro c member
      rcases List.mem_cons.mp member with rfl | later
      · rcases marked with rfl | rfl <;> exact .inr (by decide)
      · split at digits
        · rcases List.mem_cons.mp later with rfl | digit
          · exact .inr (by decide)
          · exact .inl (digits c digit)
        · rcases List.mem_cons.mp later with rfl | digit
          · exact .inr (by decide)
          · exact .inl (digits c digit)
        · exact .inl (digits c later)

/-- A character of a text satisfies the predicate or is behind the first one that does not. -/
theorem mem_takeWhile_or_dropWhile {p : Char → Bool} {text : List Char} {c : Char}
    (member : c ∈ text) : p c = true ∨ c ∈ text.dropWhile p := by
  rw [← List.takeWhile_append_dropWhile (p := p) (l := text), List.mem_append] at member
  exact member.imp_left fun taken => List.mem_takeWhile_imp taken

/-- A fraction has only characters of numbers. -/
theorem isFraction_chars {text : List Char} (fraction : isFraction text = true) :
    ∀ c ∈ text, InNumber c := by
  unfold isFraction at fraction
  split at fraction
  · rename_i rest
    rw [Bool.and_eq_true] at fraction
    intro c member
    rcases List.mem_cons.mp member with rfl | later
    · exact .inr (by decide)
    · exact (mem_takeWhile_or_dropWhile later).imp id (fun after =>
        (isExponent_chars fraction.2 c after)) |>.elim .inl id
  · exact isExponent_chars fraction

/-- A number is digits and a fraction, perhaps after a sign. -/
theorem isNumber_parts {text : List Char} (literal : isNumber text = true) :
    ∃ sign unsigned, text = sign ++ unsigned ∧ (sign = [] ∨ sign = ['-']) ∧
      unsigned.takeWhile Char.isDigit ≠ [] ∧
      isFraction (unsigned.dropWhile Char.isDigit) = true := by
  unfold isNumber at literal
  extract_lets unsigned digits at literal
  have signed : ∃ sign, text = sign ++ unsigned ∧ (sign = [] ∨ sign = ['-']) := by
    dsimp only [unsigned]
    split
    · exact ⟨['-'], rfl, .inr rfl⟩
    · exact ⟨[], rfl, .inl rfl⟩
  obtain ⟨sign, same, isSign⟩ := signed
  simp only [Bool.and_eq_true, Bool.not_eq_true', List.isEmpty_eq_false_iff] at literal
  exact ⟨sign, unsigned, same, isSign, literal.1.1, literal.2⟩

/-- A number literal is not empty and has only characters of numbers. -/
theorem isNumber_chars {text : List Char} (literal : isNumber text = true) :
    text ≠ [] ∧ ∀ c ∈ text, InNumber c := by
  obtain ⟨sign, unsigned, rfl, isSign, digits, fraction⟩ := isNumber_parts literal
  constructor
  · intro empty
    rw [(List.append_eq_nil_iff.mp empty).2] at digits
    exact digits rfl
  · intro c member
    rcases List.mem_append.mp member with inSign | inUnsigned
    · rcases isSign with rfl | rfl
      · cases inSign
      · rw [List.mem_singleton.mp inSign]
        exact .inr (by decide)
    · rcases mem_takeWhile_or_dropWhile inUnsigned with digit | after
      · exact .inl digit
      · exact isFraction_chars fraction c after

/-! ### One line, and nothing to trim -/

/-- The text has no control characters: no line break, no carriage return. -/
def Visible (text : List Char) : Prop :=
  ∀ c ∈ text, 0x20 ≤ c.toNat

instance (text : List Char) : Decidable (Visible text) :=
  List.decidableBAll _ text

theorem visible_append {first second : List Char} :
    Visible (first ++ second) ↔ Visible first ∧ Visible second :=
  List.forall_mem_append

theorem visible_cons {c : Char} {rest : List Char} :
    Visible (c :: rest) ↔ 0x20 ≤ c.toNat ∧ Visible rest :=
  List.forall_mem_cons

theorem visible_nil : Visible [] := fun _ member => absurd member List.not_mem_nil

/-- Hexadecimal digits are visible. -/
theorem hexDigit_visible : ∀ n < 16, 0x20 ≤ (hexDigit n).toNat := by decide

/-- A character is printed visibly, a control character by its escape. -/
theorem printChar_visible (c : Char) : Visible (printChar c) := by
  have short : ∀ letter : Char, 0x20 ≤ letter.toNat → Visible ['\\', letter] := by
    intro letter isVisible
    exact visible_cons.mpr ⟨by decide, visible_cons.mpr ⟨isVisible, visible_nil⟩⟩
  unfold printChar
  split_ifs with _ _ _ _ _ _ _ control
  · exact short '"' (by decide)
  · exact short '\\' (by decide)
  · exact short 'b' (by decide)
  · exact short 'f' (by decide)
  · exact short 'n' (by decide)
  · exact short 'r' (by decide)
  · exact short 't' (by decide)
  · have upper := hexDigit_visible (c.toNat / 16) (by omega)
    have lower := hexDigit_visible (c.toNat % 16) (by omega)
    simp only [visible_cons, upper, lower, visible_nil, and_true]
    decide
  · exact visible_cons.mpr ⟨Nat.le_of_not_lt control, visible_nil⟩

/-- A string is printed visibly. -/
theorem printString_visible (text : String) : Visible (printString text) := by
  have inner : Visible (text.toList.flatMap printChar) := by
    intro c member
    obtain ⟨_, _, written⟩ := List.mem_flatMap.mp member
    exact printChar_visible _ c written
  simp only [printString, quoted, visible_cons, visible_append, visible_nil, inner]
  decide

/-! ### Printed texts -/

/-- The characters that the text of a value starts with. -/
def StartsValue (c : Char) : Prop :=
  c.isDigit = true ∨ c ∈ ['-', 'n', 't', 'f', '"', '[', '\x7b']

instance (c : Char) : Decidable (StartsValue c) :=
  inferInstanceAs (Decidable (_ ∨ _))

/-- A number literal begins with the sign or a digit. -/
theorem isNumber_starts {text : List Char} (literal : isNumber text = true) :
    ∃ c rest, text = c :: rest ∧ StartsValue c := by
  obtain ⟨sign, unsigned, rfl, isSign, digits, _⟩ := isNumber_parts literal
  rcases isSign with rfl | rfl
  · cases unsigned with
    | nil => exact absurd rfl digits
    | cons c rest =>
        refine ⟨c, rest, rfl, .inl ?_⟩
        by_contra other
        exact digits (List.takeWhile_cons_of_neg other)
  · exact ⟨'-', unsigned, rfl, .inr (by decide)⟩

section Print

variable {printNumber : Number → List Char}

/-- The characters of numbers are visible and no white space. -/
theorem inNumber_visible {c : Char} (inNumber : InNumber c) :
    0x20 ≤ c.toNat ∧ isWhiteSpace c = false := by
  have range : 0x21 ≤ c.toNat ∧ c.toNat < 0x7f := by
    rcases inNumber with digit | mark
    · simp only [Char.isDigit, Bool.and_eq_true, decide_eq_true_eq, UInt32.le_iff_toNat_le] at digit
      change 48 ≤ c.toNat ∧ c.toNat ≤ 57 at digit
      omega
    · simp only [List.mem_cons, List.not_mem_nil, or_false] at mark
      rcases mark with rfl | rfl | rfl | rfl | rfl <;> decide
  refine ⟨by omega, ?_⟩
  simp only [isWhiteSpace, Bool.or_eq_false_iff, Bool.and_eq_false_imp, decide_eq_false_iff_not,
    decide_eq_true_eq]
  omega

mutual

/-- No control character, so no line break either, is printed; by induction on the value. -/
theorem print_visible (literal : ∀ number, isNumber (printNumber number) = true) :
    ∀ value : Value, Visible (print printNumber value)
  | .null => by
      rw [print]
      decide
  | .bool true => by
      rw [print]
      decide
  | .bool false => by
      rw [print]
      decide
  | .number number => fun c member =>
      (inNumber_visible ((isNumber_chars (literal number)).2 c member)).1
  | .string text => printString_visible text
  | .array items => by
      have inner := printItems_visible literal items
      simp only [print, visible_cons, visible_append, visible_nil, inner]
      decide
  | .object members => by
      have inner := printMembers_visible literal members
      simp only [print, visible_cons, visible_append, visible_nil, inner]
      decide

theorem printItems_visible (literal : ∀ number, isNumber (printNumber number) = true) :
    ∀ items : List Value, Visible (printItems printNumber items)
  | [] => visible_nil
  | [item] => print_visible literal item
  | item :: next :: rest => by
      have first := print_visible literal item
      have later := printItems_visible literal (next :: rest)
      simp only [printItems, visible_cons, visible_append, first, later]
      decide

theorem printMembers_visible (literal : ∀ number, isNumber (printNumber number) = true) :
    ∀ members : List (String × Value), Visible (printMembers printNumber members)
  | [] => visible_nil
  | [(key, value)] => by
      have first := print_visible literal value
      simp only [printMembers, visible_cons, visible_append, printString_visible, first]
      decide
  | (key, value) :: next :: rest => by
      have first := print_visible literal value
      have later := printMembers_visible literal (next :: rest)
      simp only [printMembers, visible_cons, visible_append, printString_visible, first, later]
      decide

end

/-- A text that begins and ends with something other than white space is not trimmed. -/
theorem trimChars_framed {first last : Char} (inner : List Char)
    (opens : isWhiteSpace first = false) (closes : isWhiteSpace last = false) :
    trimChars (first :: (inner ++ [last])) = first :: (inner ++ [last]) := by
  rw [trimChars, List.dropWhile_cons_of_neg (by simp [opens]), ← List.cons_append,
    List.rdropWhile_concat_neg _ _ _ (by simp [closes])]

/-- Nothing is trimmed off a printed text. -/
theorem trimChars_print (literal : ∀ number, isNumber (printNumber number) = true)
    (value : Value) : trimChars (print printNumber value) = print printNumber value := by
  cases value with
  | null =>
      rw [print]
      decide
  | bool value => cases value <;> rw [print] <;> decide
  | number number =>
      have solid : ∀ c ∈ printNumber number, isWhiteSpace c = false := fun c member =>
        (inNumber_visible ((isNumber_chars (literal number)).2 c member)).2
      unfold print trimChars
      rw [List.dropWhile_eq_self_iff.mpr, List.rdropWhile_eq_self_iff.mpr]
      · intro nonempty
        simp [solid _ (List.getLast_mem nonempty)]
      · intro nonempty
        simp [solid _ (List.getElem_mem nonempty)]
  | string text => exact trimChars_framed _ (by decide) (by decide)
  | array items => exact trimChars_framed _ (by decide) (by decide)
  | object members => exact trimChars_framed _ (by decide) (by decide)

/-- A printed text starts as the text of a value does. -/
theorem print_starts (literal : ∀ number, isNumber (printNumber number) = true) (value : Value) :
    ∃ c rest, print printNumber value = c :: rest ∧ StartsValue c := by
  cases value with
  | null => exact ⟨'n', _, rfl, .inr (by decide)⟩
  | bool value =>
      cases value with
      | true => exact ⟨'t', _, rfl, .inr (by decide)⟩
      | false => exact ⟨'f', _, rfl, .inr (by decide)⟩
  | number number => exact isNumber_starts (literal number)
  | string text => exact ⟨'"', _, rfl, .inr (by decide)⟩
  | array items => exact ⟨'[', _, rfl, .inr (by decide)⟩
  | object members => exact ⟨'\x7b', _, rfl, .inr (by decide)⟩

/-- A printed array goes on with an item, or ends. -/
theorem print_array_starts (literal : ∀ number, isNumber (printNumber number) = true)
    (items : List Value) :
    ∃ c rest, print printNumber (.array items) = '[' :: c :: rest ∧ (StartsValue c ∨ c = ']') := by
  cases items with
  | nil => exact ⟨']', [], rfl, .inr rfl⟩
  | cons item later =>
      obtain ⟨c, rest, same, starts⟩ := print_starts literal item
      cases later with
      | nil => exact ⟨c, rest ++ [']'], by rw [print, printItems, same]; rfl, .inl starts⟩
      | cons next later =>
          exact ⟨c, _, by rw [print, printItems, same]; rfl, .inl starts⟩

end Print

end ProstheticConscience.Json
