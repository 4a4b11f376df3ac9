/-
# Bytes read as text

Bytes that are no UTF-8 are read as replacement characters: one for the longest start of a character
that the next byte breaks off, one for a byte that starts no character.

Key definitions: `Text.decode`.
-/

namespace DriveHealth.Text

/-- The sign that stands for bytes that are no text. -/
def replacement : Char := '\uFFFD'

/-- How many bytes follow the first byte of a character, and the range of the second byte. -/
def leadByte? (b : Nat) : Option (Nat × Nat × Nat) :=
  if 0xC2 ≤ b ∧ b ≤ 0xDF then some (1, 0x80, 0xBF)
  else if b = 0xE0 then some (2, 0xA0, 0xBF)
  else if b = 0xED then some (2, 0x80, 0x9F)
  else if 0xE1 ≤ b ∧ b ≤ 0xEF then some (2, 0x80, 0xBF)
  else if b = 0xF0 then some (3, 0x90, 0xBF)
  else if 0xF1 ≤ b ∧ b ≤ 0xF3 then some (3, 0x80, 0xBF)
  else if b = 0xF4 then some (3, 0x80, 0x8F)
  else none

/-- A character under way: bytes still owed, range of the next one, bits read so far. -/
structure Partial where
  owed : Nat
  low : Nat
  high : Nat
  bits : Nat

/-- What a first byte leads to: a whole character or one under way. -/
def startChar (b : Nat) : List Char × Option Partial :=
  if b < 0x80 then ([Char.ofNat b], none)
  else
    match leadByte? b with
    | some (owed, low, high) => ([], some ⟨owed, low, high, b % (64 >>> owed)⟩)
    | none => ([replacement], none)

/-- One more byte: the characters it completes and what is under way after it. -/
def stepByte : Option Partial → Nat → List Char × Option Partial
  | none, b => startChar b
  | some p, b =>
    if p.low ≤ b ∧ b ≤ p.high then
      let bits := p.bits * 64 + b % 64
      if p.owed ≤ 1 then ([Char.ofNat bits], none) else ([], some ⟨p.owed - 1, 0x80, 0xBF, bits⟩)
    else
      let (chars, next) := startChar b
      (replacement :: chars, next)

/-- The characters of the bytes that follow a character under way. -/
def decodeFrom : Option Partial → List UInt8 → List Char
  | none, [] => []
  | some _, [] => [replacement]
  | p, b :: bytes =>
    let (chars, next) := stepByte p b.toNat
    chars ++ decodeFrom next bytes

/-- The text of the bytes. -/
def decode (bytes : List UInt8) : List Char := decodeFrom none bytes

end DriveHealth.Text
