/-!
# Bytes as text

UTF-8 read without refusing anything: a byte sequence that is not well formed becomes replacement
characters, one for each maximal start of a character that does not go on as it should.
-/

namespace LocalizedMail.Text

/-- The character that stands for bytes that are no text. -/
def replacement : Char := '\uFFFD'

/-- The lead byte of a sequence: how many bytes follow, which values the first of them may have, and
the bits that the lead byte contributes. -/
def leadByte? (b : Nat) : Option (Nat × Nat × Nat × Nat) :=
  if 0xC2 ≤ b ∧ b ≤ 0xDF then some (1, 0x80, 0xBF, b - 0xC0)
  else if b = 0xE0 then some (2, 0xA0, 0xBF, 0)
  else if b = 0xED then some (2, 0x80, 0x9F, 0xD)
  else if 0xE1 ≤ b ∧ b ≤ 0xEF then some (2, 0x80, 0xBF, b - 0xE0)
  else if b = 0xF0 then some (3, 0x90, 0xBF, 0)
  else if b = 0xF4 then some (3, 0x80, 0x8F, 4)
  else if 0xF1 ≤ b ∧ b ≤ 0xF3 then some (3, 0x80, 0xBF, b - 0xF0)
  else none

/-- A character under way: how many bytes are still to come, the bounds of the next one, and the
bits so far. -/
structure Pending where
  left : Nat
  low : Nat
  high : Nat
  bits : Nat

/-- The characters of bytes, given the character under way. -/
def decodeFrom : Option Pending → List Nat → List Char
  | none, [] => []
  | some _, [] => [replacement]
  | some p, b :: bs =>
    if p.low ≤ b ∧ b ≤ p.high then
      let bits := p.bits * 64 + (b - 0x80)
      if p.left ≤ 1 then Char.ofNat bits :: decodeFrom none bs
      else decodeFrom (some ⟨p.left - 1, 0x80, 0xBF, bits⟩) bs
    else if b < 0x80 then replacement :: Char.ofNat b :: decodeFrom none bs
    else
      match leadByte? b with
      | some (left, low, high, bits) =>
        replacement :: decodeFrom (some ⟨left, low, high, bits⟩) bs
      | none => replacement :: replacement :: decodeFrom none bs
  | none, b :: bs =>
    if b < 0x80 then Char.ofNat b :: decodeFrom none bs
    else
      match leadByte? b with
      | some (left, low, high, bits) => decodeFrom (some ⟨left, low, high, bits⟩) bs
      | none => replacement :: decodeFrom none bs

/-- Bytes as text, whatever they are. -/
def decodeLossy (bytes : ByteArray) : String :=
  String.ofList (decodeFrom none (bytes.toList.map UInt8.toNat))

end LocalizedMail.Text
