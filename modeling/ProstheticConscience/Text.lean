/-
Module: ProstheticConscience.Text
Purpose: Text as both clients treat it: white space and trimming, and bytes read as UTF-8, where
  each ill-formed part is replaced by U+FFFD.
Trusted boundary: none
Main exports: isWhiteSpace, trimChars, trim, Utf8.OpenChar, utf8, fromUtf8Lossy, utf8_isPlain
-/
import Mathlib.Data.List.DropRight
import Mathlib.Data.List.TakeWhile
import Mathlib.Tactic.SplitIfs
import ProstheticConscience.Library.UnitDecoder

namespace ProstheticConscience

/-! ### White space -/

/-- The characters that have the Unicode property `White_Space`. -/
def isWhiteSpace (c : Char) : Bool :=
  let code := c.toNat
  (9 ≤ code && code ≤ 13) || code = 0x20 || code = 0x85 || code = 0xA0 || code = 0x1680 ||
    (0x2000 ≤ code && code ≤ 0x200A) || code = 0x2028 || code = 0x2029 || code = 0x202F ||
    code = 0x205F || code = 0x3000

def trimChars (text : List Char) : List Char :=
  (text.dropWhile isWhiteSpace).rdropWhile isWhiteSpace

def trim (text : String) : String :=
  .ofList (trimChars text.toList)

/-- White space in front is trimmed. -/
theorem trimChars_cons_whiteSpace {c : Char} (blank : isWhiteSpace c = true) (text : List Char) :
    trimChars (c :: text) = trimChars text := by
  rw [trimChars, List.dropWhile_cons_of_pos blank, trimChars]

/-- White space at the end is trimmed. -/
theorem trimChars_append_whiteSpace (text : List Char) {white : List Char}
    (blank : ∀ c ∈ white, isWhiteSpace c = true) :
    trimChars (text ++ white) = trimChars text := by
  have blankEnd : white.reverse.dropWhile isWhiteSpace = [] :=
    List.dropWhile_eq_nil_iff.mpr fun c member => blank c (List.mem_reverse.mp member)
  unfold trimChars
  rw [List.dropWhile_append]
  split
  · rename_i onlyWhite
    rw [List.dropWhile_eq_nil_iff.mpr blank, List.isEmpty_iff.mp onlyWhite]
  · rw [List.rdropWhile, List.reverse_append, List.dropWhile_append, blankEnd]
    rfl

section Visible

variable {counts : Char → Bool} (visible : ∀ c, counts c = true → isWhiteSpace c = false)
include visible

/-- Dropping white space drops no character that counts. -/
theorem countP_dropWhile (text : List Char) :
    (text.dropWhile isWhiteSpace).countP counts = text.countP counts := by
  induction text with
  | nil => rfl
  | cons c rest ih =>
      cases white : isWhiteSpace c with
      | false => rw [List.dropWhile_cons_of_neg (by simp [white])]
      | true =>
          have uncounted : ¬counts c = true := by
            intro counted
            rw [visible c counted] at white
            cases white
          rw [List.dropWhile_cons_of_pos white, ih, List.countP_cons_of_neg uncounted]

/-- Trimming keeps every character that is no white space. -/
theorem countP_trimChars (text : List Char) :
    (trimChars text).countP counts = text.countP counts := by
  rw [trimChars, List.rdropWhile, List.countP_reverse, countP_dropWhile visible,
    List.countP_reverse, countP_dropWhile visible]

end Visible

/-! ### UTF-8 -/

namespace Utf8

def isContinuation (b : UInt8) : Bool :=
  0x80 ≤ b.toNat && b.toNat ≤ 0xBF

/-- The number of bytes of a character that starts with a byte; 0 if none does. -/
def width (lead : UInt8) : Nat :=
  let n := lead.toNat
  if n < 0x80 then 1
  else if n < 0xC2 then 0
  else if n < 0xE0 then 2
  else if n < 0xF0 then 3
  else if n < 0xF5 then 4
  else 0

/-- Whether a byte may be the second one of a character. -/
def mayFollow (lead second : UInt8) : Bool :=
  let n := second.toNat
  if lead.toNat = 0xE0 then 0xA0 ≤ n && n ≤ 0xBF
  else if lead.toNat = 0xED then 0x80 ≤ n && n ≤ 0x9F
  else if lead.toNat = 0xF0 then 0x90 ≤ n && n ≤ 0xBF
  else if lead.toNat = 0xF4 then 0x80 ≤ n && n ≤ 0x8F
  else isContinuation second

/-- The bytes of a character that is not complete. -/
inductive OpenChar where
  | one (lead : UInt8) (opens : 2 ≤ width lead)
  | two (lead second : UInt8) (wide : 3 ≤ width lead) (follows : mayFollow lead second = true)
  | three (lead second third : UInt8) (wide : width lead = 4)
      (follows : mayFollow lead second = true) (continues : isContinuation third = true)

def char2 (lead second : UInt8) : Char :=
  .ofNat (lead.toNat % 32 * 64 + second.toNat % 64)

def char3 (lead second third : UInt8) : Char :=
  .ofNat ((lead.toNat % 16 * 64 + second.toNat % 64) * 64 + third.toNat % 64)

def char4 (lead second third fourth : UInt8) : Char :=
  .ofNat
    (((lead.toNat % 8 * 64 + second.toNat % 64) * 64 + third.toNat % 64) * 64 +
      fourth.toNat % 64)

def replacement : Char :=
  .ofNat 0xFFFD

def start (b : UInt8) : Char ⊕ OpenChar :=
  if b.toNat < 0x80 then .inl (.ofNat b.toNat)
  else if opens : 2 ≤ width b then .inr (.one b opens)
  else .inl replacement

def next : OpenChar → UInt8 → Option (Char ⊕ OpenChar)
  | .one lead _, b =>
      if follows : mayFollow lead b = true then
        some
          (if wide : 3 ≤ width lead then .inr (.two lead b wide follows)
          else .inl (char2 lead b))
      else none
  | .two lead second _ follows, b =>
      if continues : isContinuation b = true then
        some
          (if wide : width lead = 4 then .inr (.three lead second b wide follows continues)
          else .inl (char3 lead second b))
      else none
  | .three lead second third _ _ _, b =>
      if isContinuation b then some (.inl (char4 lead second third b)) else none

/-- Continuation bytes are 0x80 to 0xBF. -/
theorem isContinuation_iff (b : UInt8) :
    isContinuation b = true ↔ 0x80 ≤ b.toNat ∧ b.toNat ≤ 0xBF := by
  simp [isContinuation]

/-- The second byte continues the first; overlong characters, surrogates and characters beyond the
last are ruled out here. -/
theorem mayFollow_iff (lead second : UInt8) :
    mayFollow lead second = true ↔
      (0x80 ≤ second.toNat ∧ second.toNat ≤ 0xBF) ∧
      (lead.toNat = 0xE0 → 0xA0 ≤ second.toNat) ∧ (lead.toNat = 0xED → second.toNat ≤ 0x9F) ∧
      (lead.toNat = 0xF0 → 0x90 ≤ second.toNat) ∧ (lead.toNat = 0xF4 → second.toNat ≤ 0x8F) := by
  unfold mayFollow
  dsimp only
  split_ifs <;> simp only [Bool.and_eq_true, decide_eq_true_eq, isContinuation_iff] <;> omega

/-- Lead bytes are 0xC2 to 0xF4. -/
theorem two_le_width_iff (b : UInt8) : 2 ≤ width b ↔ 0xC2 ≤ b.toNat ∧ b.toNat < 0xF5 := by
  unfold width
  dsimp only
  split_ifs <;> omega

/-- Lead bytes of three or four bytes begin at 0xE0. -/
theorem three_le_width_iff (b : UInt8) : 3 ≤ width b ↔ 0xE0 ≤ b.toNat ∧ b.toNat < 0xF5 := by
  unfold width
  dsimp only
  split_ifs <;> omega

/-- Lead bytes of four bytes begin at 0xF0. -/
theorem width_eq_four_iff (b : UInt8) : width b = 4 ↔ 0xF0 ≤ b.toNat ∧ b.toNat < 0xF5 := by
  unfold width
  dsimp only
  constructor
  · intro four
    split_ifs at four <;> omega
  · intro range
    split_ifs <;> omega

/-- A byte that continues a character does not start one. -/
theorem start_of_next {unit : OpenChar} {b : UInt8} (continues : (next unit b).isSome = true) :
    start b = .inl replacement := by
  have continuation : 0x80 ≤ b.toNat ∧ b.toNat ≤ 0xBF := by
    cases unit with
    | one lead opens =>
        rw [next] at continues
        split at continues
        · exact ((mayFollow_iff lead b).mp ‹_›).1
        · cases continues
    | two lead second wide follows =>
        rw [next] at continues
        split at continues
        · exact (isContinuation_iff b).mp ‹_›
        · cases continues
    | three lead second third wide follows third_continues =>
        rw [next] at continues
        split at continues
        · exact (isContinuation_iff b).mp ‹_›
        · cases continues
  have closed : ¬2 ≤ width b := by
    rw [two_le_width_iff]
    omega
  unfold start
  rw [if_neg (by omega), dif_neg closed]

/-! ### Characters beyond ASCII -/

/-- A scalar value is the number of its character. -/
theorem toNat_ofNat_of_scalar {n : Nat} (scalar : n < 0xD800 ∨ 0xE000 ≤ n ∧ n < 0x110000) :
    (Char.ofNat n).toNat = n := by
  have valid : n.isValidChar := by
    unfold Nat.isValidChar
    omega
  rw [Char.ofNat, dif_pos valid]
  rfl

/-- The replacement character is not an ASCII character. -/
theorem ascii_lt_replacement : 0x80 ≤ replacement.toNat := by
  decide

/-- What completes a character is beyond ASCII. -/
theorem ascii_lt_next {unit : OpenChar} {b : UInt8} {c : Char}
    (completes : next unit b = some (.inl c)) : 0x80 ≤ c.toNat := by
  cases unit with
  | one lead opens =>
      rw [next] at completes
      split at completes
      · rename_i follows
        split at completes
        · cases completes
        · rename_i narrow
          cases completes
          rw [two_le_width_iff] at opens
          rw [three_le_width_iff] at narrow
          rw [mayFollow_iff] at follows
          rw [char2, toNat_ofNat_of_scalar (by omega)]
          omega
      · cases completes
  | two lead second wide follows =>
      rw [next] at completes
      split at completes
      · rename_i continues
        split at completes
        · cases completes
        · rename_i narrow
          cases completes
          rw [three_le_width_iff] at wide
          rw [width_eq_four_iff] at narrow
          rw [mayFollow_iff] at follows
          rw [char3, toNat_ofNat_of_scalar (by omega)]
          omega
      · cases completes
  | three lead second third wide follows third_continues =>
      rw [next] at completes
      split at completes
      · cases completes
        rw [width_eq_four_iff] at wide
        rw [mayFollow_iff] at follows
        rw [char4, toNat_ofNat_of_scalar (by omega)]
        omega
      · cases completes

end Utf8

/-- UTF-8 as the standard library of the source reads it: a character that is broken off, and a
byte that starts none, are replaced. -/
def utf8 : UnitDecoder UInt8 Char Utf8.OpenChar where
  start := Utf8.start
  next := Utf8.next
  broken := Utf8.replacement
  stray _ _ := Utf8.start_of_next

def fromUtf8Lossy (bytes : List UInt8) : List Char :=
  utf8.decode bytes

/-- The bytes of ASCII characters are characters by themselves. -/
theorem utf8_isPlain {b : UInt8} (ascii : b.toNat < 0x80) : utf8.IsPlain b (.ofNat b.toNat) where
  start := if_pos ascii
  only b' starts := by
    have code : (Char.ofNat b.toNat).toNat = b.toNat := Utf8.toNat_ofNat_of_scalar (by omega)
    change Utf8.start b' = _ at starts
    unfold Utf8.start at starts
    split at starts
    · have same := congrArg Char.toNat (Sum.inl.inj starts)
      rw [code, Utf8.toNat_ofNat_of_scalar (by omega)] at same
      exact UInt8.toNat_inj.mp same
    · split at starts
      · cases starts
      · have beyond := Utf8.ascii_lt_replacement
        rw [Sum.inl.inj starts, code] at beyond
        omega
  inner unit b' completes := by
    have beyond := Utf8.ascii_lt_next completes
    rw [Utf8.toNat_ofNat_of_scalar (by omega)] at beyond
    omega
  notBroken same := by
    have beyond : 0x80 ≤ (Char.ofNat b.toNat).toNat := same ▸ Utf8.ascii_lt_replacement
    rw [Utf8.toNat_ofNat_of_scalar (by omega)] at beyond
    omega

end ProstheticConscience
