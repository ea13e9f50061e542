/-
Module: ProstheticConscience.Utf8
Purpose: Text as bytes.  What was encoded is decoded to the same characters, with nothing replaced.
Trusted boundary: none
Main exports: Utf8.encodeChar, utf8Bytes, fromUtf8Lossy_utf8Bytes
-/
import ProstheticConscience.Text

namespace ProstheticConscience

namespace Utf8

/-- The bytes of a character. -/
def encodeChar (c : Char) : List UInt8 :=
  let n := c.toNat
  if n < 0x80 then [.ofNat n]
  else if n < 0x800 then [.ofNat (0xC0 + n / 64), .ofNat (0x80 + n % 64)]
  else if n < 0x10000 then
    [.ofNat (0xE0 + n / 4096), .ofNat (0x80 + n / 64 % 64), .ofNat (0x80 + n % 64)]
  else
    [.ofNat (0xF0 + n / 262144), .ofNat (0x80 + n / 4096 % 64), .ofNat (0x80 + n / 64 % 64),
      .ofNat (0x80 + n % 64)]

/-- The code of a character is that of no surrogate, and not beyond the last. -/
theorem toNat_scalar (c : Char) : c.toNat < 0xD800 ∨ 0xDFFF < c.toNat ∧ c.toNat < 0x110000 :=
  c.valid

/-- A number below 256 is kept by a byte. -/
theorem toNat_ofNat_byte {n : Nat} (byte : n < 256) : (UInt8.ofNat n).toNat = n :=
  UInt8.toNat_ofNat_of_lt' byte

/-- Six bits behind the mark are a continuation byte. -/
theorem isContinuation_ofNat {n : Nat} (small : n < 64) :
    isContinuation (.ofNat (0x80 + n)) = true := by
  rw [isContinuation_iff, toNat_ofNat_byte (by omega)]
  omega

end Utf8

open Utf8

/-! ### Characters by their width -/

/-- A byte below 0x80 is decoded by itself. -/
theorem decode_one {b : UInt8} (ascii : b.toNat < 0x80) (rest : List UInt8) :
    utf8.decode (b :: rest) = .ofNat b.toNat :: utf8.decode rest := by
  have starts : utf8.start b = .inl (.ofNat b.toNat) := if_pos ascii
  simp only [UnitDecoder.decode, UnitDecoder.decodeFrom_cons, UnitDecoder.reads,
    UnitDecoder.begins, starts, List.singleton_append]

/-- A lead byte opens a character. -/
theorem decode_lead {lead : UInt8} (opens : 2 ≤ width lead) (rest : List UInt8) :
    utf8.decode (lead :: rest) = utf8.decodeFrom (some (.one lead opens)) rest := by
  have range := (two_le_width_iff lead).mp opens
  have starts : utf8.start lead = .inr (.one lead opens) := by
    change start lead = _
    rw [start, if_neg (by omega), dif_pos opens]
  simp only [UnitDecoder.decode, UnitDecoder.decodeFrom_cons, UnitDecoder.reads,
    UnitDecoder.begins, starts, List.nil_append]

/-- A lead byte of width two and a byte that may follow it are decoded to their character. -/
theorem decode_two {lead second : UInt8} (opens : 2 ≤ width lead) (narrow : ¬3 ≤ width lead)
    (follows : mayFollow lead second = true) (rest : List UInt8) :
    utf8.decode (lead :: second :: rest) = char2 lead second :: utf8.decode rest := by
  rw [decode_lead opens]
  apply UnitDecoder.decodeFrom_completes
  change next (.one lead opens) second = _
  rw [next, dif_pos follows, dif_neg narrow]

/-- After two bytes of a longer character the decoder is in the state that knows both. -/
theorem decode_second {lead second : UInt8} (wide : 3 ≤ width lead)
    (follows : mayFollow lead second = true) (rest : List UInt8) :
    utf8.decode (lead :: second :: rest) =
      utf8.decodeFrom (some (.two lead second wide follows)) rest := by
  have opens : 2 ≤ width lead := Nat.le_of_succ_le wide
  rw [decode_lead opens]
  apply UnitDecoder.decodeFrom_goesOn
  change next (.one lead opens) second = _
  rw [next, dif_pos follows, dif_pos wide]

/-- A lead byte of width three with its two followers is decoded to its character. -/
theorem decode_three {lead second third : UInt8} (wide : 3 ≤ width lead)
    (narrow : ¬width lead = 4) (follows : mayFollow lead second = true)
    (continues : isContinuation third = true) (rest : List UInt8) :
    utf8.decode (lead :: second :: third :: rest) =
      char3 lead second third :: utf8.decode rest := by
  rw [decode_second wide follows]
  apply UnitDecoder.decodeFrom_completes
  change next (.two lead second wide follows) third = _
  rw [next, dif_pos continues, dif_neg narrow]

/-- A lead byte of width four with its three followers is decoded to its character. -/
theorem decode_four {lead second third fourth : UInt8} (four : width lead = 4)
    (follows : mayFollow lead second = true) (continues : isContinuation third = true)
    (ends : isContinuation fourth = true) (rest : List UInt8) :
    utf8.decode (lead :: second :: third :: fourth :: rest) =
      char4 lead second third fourth :: utf8.decode rest := by
  have wide : 3 ≤ width lead := by omega
  have goesOn : next (.two lead second wide follows) third =
      some (.inr (.three lead second third four follows continues)) := by
    rw [next, dif_pos continues, dif_pos four]
  have completes : next (.three lead second third four follows continues) fourth =
      some (.inl (char4 lead second third fourth)) := by
    rw [next, if_pos ends]
  rw [decode_second wide follows, UnitDecoder.decodeFrom_goesOn goesOn]
  exact UnitDecoder.decodeFrom_completes completes rest

/-! ### What was encoded

The decoder is a machine that reads bytes; it is run on the bytes of one character, by the width,
and then on those of a text by induction. -/

/-- The bytes of a character are decoded to it, whatever follows. -/
theorem decode_encodeChar (c : Char) (rest : List UInt8) :
    utf8.decode (encodeChar c ++ rest) = c :: utf8.decode rest := by
  have scalar := toNat_scalar c
  have code : Char.ofNat c.toNat = c := Char.ofNat_toNat c
  unfold encodeChar
  dsimp only
  split
  · have byte : (UInt8.ofNat c.toNat).toNat = c.toNat := toNat_ofNat_byte (by omega)
    rw [List.singleton_append, decode_one (by omega), byte, code]
  · split
    · have lead : (UInt8.ofNat (0xC0 + c.toNat / 64)).toNat = 0xC0 + c.toNat / 64 :=
        toNat_ofNat_byte (by omega)
      have second : (UInt8.ofNat (0x80 + c.toNat % 64)).toNat = 0x80 + c.toNat % 64 :=
        toNat_ofNat_byte (by omega)
      have same : (0xC0 + c.toNat / 64) % 32 * 64 + (0x80 + c.toNat % 64) % 64 = c.toNat := by
        omega
      rw [List.cons_append, List.singleton_append, decode_two, char2, lead, second, same, code]
      · rw [two_le_width_iff]
        omega
      · rw [three_le_width_iff]
        omega
      · rw [mayFollow_iff]
        omega
    · split
      · have lead : (UInt8.ofNat (0xE0 + c.toNat / 4096)).toNat = 0xE0 + c.toNat / 4096 :=
          toNat_ofNat_byte (by omega)
        have second : (UInt8.ofNat (0x80 + c.toNat / 64 % 64)).toNat =
            0x80 + c.toNat / 64 % 64 := toNat_ofNat_byte (by omega)
        have third : (UInt8.ofNat (0x80 + c.toNat % 64)).toNat = 0x80 + c.toNat % 64 :=
          toNat_ofNat_byte (by omega)
        have same : ((0xE0 + c.toNat / 4096) % 16 * 64 + (0x80 + c.toNat / 64 % 64) % 64) * 64 +
            (0x80 + c.toNat % 64) % 64 = c.toNat := by
          omega
        rw [List.cons_append, List.cons_append, List.singleton_append, decode_three, char3, lead,
          second, third, same, code]
        · rw [three_le_width_iff]
          omega
        · rw [width_eq_four_iff]
          omega
        · rw [mayFollow_iff]
          omega
        · exact isContinuation_ofNat (Nat.mod_lt _ (by decide))
      · have lead : (UInt8.ofNat (0xF0 + c.toNat / 262144)).toNat = 0xF0 + c.toNat / 262144 :=
          toNat_ofNat_byte (by omega)
        have second : (UInt8.ofNat (0x80 + c.toNat / 4096 % 64)).toNat =
            0x80 + c.toNat / 4096 % 64 := toNat_ofNat_byte (by omega)
        have third : (UInt8.ofNat (0x80 + c.toNat / 64 % 64)).toNat =
            0x80 + c.toNat / 64 % 64 := toNat_ofNat_byte (by omega)
        have fourth : (UInt8.ofNat (0x80 + c.toNat % 64)).toNat = 0x80 + c.toNat % 64 :=
          toNat_ofNat_byte (by omega)
        have same : (((0xF0 + c.toNat / 262144) % 8 * 64 + (0x80 + c.toNat / 4096 % 64) % 64) *
            64 + (0x80 + c.toNat / 64 % 64) % 64) * 64 + (0x80 + c.toNat % 64) % 64 =
              c.toNat := by
          omega
        rw [List.cons_append, List.cons_append, List.cons_append, List.singleton_append,
          decode_four, char4, lead, second, third, fourth, same, code]
        · rw [width_eq_four_iff]
          omega
        · rw [mayFollow_iff]
          omega
        · exact isContinuation_ofNat (Nat.mod_lt _ (by decide))
        · exact isContinuation_ofNat (Nat.mod_lt _ (by decide))

def utf8Bytes (text : List Char) : List UInt8 :=
  text.flatMap Utf8.encodeChar

/-- Decoding what was encoded replaces nothing. -/
theorem fromUtf8Lossy_utf8Bytes (text : List Char) : fromUtf8Lossy (utf8Bytes text) = text := by
  unfold fromUtf8Lossy
  induction text with
  | nil => rfl
  | cons c rest ih => rw [utf8Bytes, List.flatMap_cons, decode_encodeChar, ← utf8Bytes, ih]

end ProstheticConscience
