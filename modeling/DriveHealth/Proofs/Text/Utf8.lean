/-
# Text read from its bytes

The bytes of a text are read as the same text. A character takes one to four bytes; its first byte tells how
many follow, and together with the second one it shuts out the numbers that are no characters or that fewer
bytes could write.

Key definitions: `Text.encode`.
Key theorems: `Text.decodeFrom_encodeChar`, `Text.encodeChar_of_ascii`, `Text.encodeChar_of_not_ascii`,
`Text.decode_encode`, `Text.getLast?_of_encode`, `Text.bytes_eq_encode`.
-/
import DriveHealth.Text.Utf8
import Mathlib.Data.List.Basic

namespace DriveHealth.Text

/-- The bytes of a text. -/
def encode (s : List Char) : List UInt8 := s.flatMap String.utf8EncodeChar

theorem encode_append (s t : List Char) : encode (s ++ t) = encode s ++ encode t := List.flatMap_append

theorem encode_eq_nil {s : List Char} : encode s = [] ↔ s = [] := by
  cases s with
  | nil => exact iff_of_true rfl rfl
  | cons c s => simp [encode]

/-! ### Bytes of one character -/

variable {b : UInt8} {bytes : List UInt8} {owed low high bits : Nat}

theorem toNat_byte {n : Nat} (h : n < 256) : (UInt8.ofNat n).toNat = n := by
  rw [UInt8.toNat_ofNat']
  exact Nat.mod_eq_of_lt h

theorem decodeFrom_ascii {n : Nat} (h : n < 0x80) :
    decodeFrom none (UInt8.ofNat n :: bytes) = Char.ofNat n :: decodeFrom none bytes := by
  have hn : (UInt8.ofNat n).toNat = n := toNat_byte (by omega)
  rw [decodeFrom, stepByte, startChar, hn, if_pos h]
  rfl

theorem decodeFrom_lead {n : Nat} (hn : n < 256) (hlead : 0x80 ≤ n)
    (h : leadByte? n = some (owed, low, high)) :
    decodeFrom none (UInt8.ofNat n :: bytes) =
      decodeFrom (some ⟨owed, low, high, n % (64 >>> owed)⟩) bytes := by
  rw [decodeFrom, stepByte, startChar, toNat_byte hn, if_neg (Nat.not_lt.mpr hlead), h]
  rfl

/-- A byte after the first one adds six bits. -/
theorem decodeFrom_more {n : Nat} (hlow : low ≤ n % 64 + 128) (hhigh : n % 64 + 128 ≤ high) :
    decodeFrom (some ⟨owed + 2, low, high, bits⟩) (UInt8.ofNat (n % 64 + 128) :: bytes) =
      decodeFrom (some ⟨owed + 1, 0x80, 0xBF, bits * 64 + n % 64⟩) bytes := by
  have hbyte : (UInt8.ofNat (n % 64 + 128)).toNat = n % 64 + 128 := toNat_byte (by omega)
  have hsix : (n % 64 + 128) % 64 = n % 64 := by omega
  rw [decodeFrom, stepByte, hbyte, if_pos ⟨hlow, hhigh⟩, if_neg (by dsimp only; omega), hsix]
  rfl

theorem decodeFrom_last {n : Nat} :
    decodeFrom (some ⟨1, 0x80, 0xBF, bits⟩) (UInt8.ofNat (n % 64 + 128) :: bytes) =
      Char.ofNat (bits * 64 + n % 64) :: decodeFrom none bytes := by
  have hbyte : (UInt8.ofNat (n % 64 + 128)).toNat = n % 64 + 128 := toNat_byte (by omega)
  have hsix : (n % 64 + 128) % 64 = n % 64 := by omega
  rw [decodeFrom, stepByte, hbyte, if_pos (by dsimp only; omega), if_pos (Nat.le_refl 1), hsix]
  rfl

/-- The second of three bytes is in the range that the first one leaves. -/
theorem exists_leadByte_two (b b' : Nat) (hb : 0xE0 ≤ b) (hb' : b ≤ 0xEF) (hlow : b = 0xE0 → 0xA0 ≤ b')
    (hhigh : b = 0xED → b' ≤ 0x9F) (htail : 0x80 ≤ b') (htail' : b' ≤ 0xBF) :
    ∃ low high, leadByte? b = some (2, low, high) ∧ low ≤ b' ∧ b' ≤ high := by
  unfold leadByte?
  split_ifs
  all_goals first | exact ⟨_, _, rfl, by omega, by omega⟩ | omega

/-- The second of four bytes is in the range that the first one leaves. -/
theorem exists_leadByte_three (b b' : Nat) (hb : 0xF0 ≤ b) (hb' : b ≤ 0xF4) (hlow : b = 0xF0 → 0x90 ≤ b')
    (hhigh : b = 0xF4 → b' ≤ 0x8F) (htail : 0x80 ≤ b') (htail' : b' ≤ 0xBF) :
    ∃ low high, leadByte? b = some (3, low, high) ∧ low ≤ b' ∧ b' ≤ high := by
  unfold leadByte?
  split_ifs
  all_goals first | exact ⟨_, _, rfl, by omega, by omega⟩ | omega

/-- The bytes of a character are read as it. -/
theorem decodeFrom_encodeChar (c : Char) :
    decodeFrom none (String.utf8EncodeChar c ++ bytes) = c :: decodeFrom none bytes := by
  have hscalar : c.toNat < 0xD800 ∨ 0xDFFF < c.toNat ∧ c.toNat < 0x110000 := c.valid
  have hchar : Char.ofNat c.toNat = c := Char.ofNat_toNat c
  rw [String.utf8EncodeChar, show c.val.toNat = c.toNat from rfl]
  generalize c.toNat = v at hscalar hchar ⊢
  split_ifs with hone htwo hthree
  · rw [List.singleton_append, decodeFrom_ascii (by omega), hchar]
  · have hlead : leadByte? (v / 64 % 32 + 192) = some (1, 0x80, 0xBF) := by
      rw [leadByte?, if_pos (by omega)]
    have hbits : (v / 64 % 32 + 192) % 32 * 64 + v % 64 = v := by omega
    rw [List.cons_append, List.singleton_append, decodeFrom_lead (by omega) (by omega) hlead, decodeFrom_last,
      show (64 >>> 1 : Nat) = 32 from rfl, hbits, hchar]
  · -- neither a number that two bytes could write nor a surrogate
    obtain ⟨low, high, hlead, hlow, hhigh⟩ := exists_leadByte_two (v / 4096 % 16 + 224)
      (v / 64 % 64 + 128) (by omega) (by omega) (by omega) (by omega) (by omega) (by omega)
    have hbits : ((v / 4096 % 16 + 224) % 16 * 64 + v / 64 % 64) * 64 + v % 64 = v := by omega
    rw [List.cons_append, List.cons_append, List.singleton_append, decodeFrom_lead (by omega) (by omega) hlead,
      decodeFrom_more hlow hhigh, decodeFrom_last, show (64 >>> 2 : Nat) = 16 from rfl, hbits, hchar]
  · -- neither a number that three bytes could write nor one above the last character
    obtain ⟨low, high, hlead, hlow, hhigh⟩ := exists_leadByte_three (v / 262144 % 8 + 240)
      (v / 4096 % 64 + 128) (by omega) (by omega) (by omega) (by omega) (by omega) (by omega)
    have hbits : (((v / 262144 % 8 + 240) % 8 * 64 + v / 4096 % 64) * 64 + v / 64 % 64) * 64 + v % 64 = v := by
      omega
    rw [List.cons_append, List.cons_append, List.cons_append, List.singleton_append,
      decodeFrom_lead (by omega) (by omega) hlead, decodeFrom_more hlow hhigh,
      decodeFrom_more (by omega) (by omega), decodeFrom_last, show (64 >>> 3 : Nat) = 8 from rfl, hbits, hchar]

theorem encodeChar_of_ascii {c : Char} (h : c.toNat < 0x80) : String.utf8EncodeChar c = [UInt8.ofNat c.toNat] := by
  have hval : c.val.toNat ≤ 127 := Nat.le_of_lt_succ h
  rw [String.utf8EncodeChar, if_pos hval]
  rfl

/-- The first byte of a longer character is above those of ASCII and above the bytes that follow a first one. -/
theorem encodeChar_of_not_ascii {c : Char} (h : 0x80 ≤ c.toNat) :
    ∃ b more, String.utf8EncodeChar c = b :: more ∧ 0xC0 ≤ b.toNat := by
  have hval : ¬ c.val.toNat ≤ 127 := Nat.not_le.mpr h
  rw [String.utf8EncodeChar, if_neg hval]
  split_ifs <;> refine ⟨_, _, rfl, ?_⟩ <;> rw [toNat_byte (by omega)] <;> omega

/-! ### Bytes of a text -/

/-- The bytes of a text are read as it. -/
theorem decode_encode (s : List Char) : decode (encode s) = s := by
  rw [decode]
  induction s with
  | nil => rfl
  | cons c s ih =>
    rw [encode, List.flatMap_cons, decodeFrom_encodeChar, ← encode, ih]

/-- A character whose last byte is a line feed is the line feed: no byte of a longer character is one. -/
theorem eq_feed_of_getLast?_encodeChar {c : Char} (h : (String.utf8EncodeChar c).getLast? = some 10) :
    c = '\n' := by
  have hchar : Char.ofNat c.toNat = c := Char.ofNat_toNat c
  rw [String.utf8EncodeChar, show c.val.toNat = c.toNat from rfl] at h
  generalize c.toNat = v at hchar h
  have htail : UInt8.ofNat (v % 64 + 128) ≠ 10 := fun heq => by
    have hnat := congrArg UInt8.toNat heq
    rw [toNat_byte (by omega), show (10 : UInt8).toNat = 10 from rfl] at hnat
    omega
  split_ifs at h with hone htwo hthree
  · have hbyte : UInt8.ofNat v = 10 := Option.some.inj h
    have hnat := congrArg UInt8.toNat hbyte
    rw [toNat_byte (by omega), show (10 : UInt8).toNat = 10 from rfl] at hnat
    rw [← hchar, hnat]
  all_goals exact absurd (Option.some.inj h) htail

/-- A text whose last byte is a line feed ends in a line feed. -/
theorem getLast?_of_encode {s : List Char} (h : (encode s).getLast? = some 10) : s.getLast? = some '\n' := by
  rcases List.eq_nil_or_concat s with rfl | ⟨t, c, rfl⟩
  · cases h
  · have hlast : encode [c] = String.utf8EncodeChar c := List.flatMap_singleton _ _
    rw [List.concat_eq_append, encode_append, hlast,
      List.getLast?_append_of_ne_nil _ String.utf8EncodeChar_ne_nil] at h
    rw [List.concat_eq_append, List.getLast?_concat, eq_feed_of_getLast?_encodeChar h]

/-- What stands in a text stands in its bytes. -/
theorem encode_infix {s t : List Char} (h : s <:+: t) : encode s <:+: encode t := by
  obtain ⟨before, after, rfl⟩ := h
  rw [encode_append, encode_append]
  exact List.infix_append _ _ _

/-- Bytes that are valid are those of a text. -/
theorem exists_text (h : bytes.toByteArray.IsValidUTF8) : ∃ s, bytes = encode s := by
  obtain ⟨s, hs⟩ := h
  refine ⟨s, ?_⟩
  have hdata := congrArg (fun b => b.data.toList) hs
  simpa [encode, List.utf8Encode] using hdata

/-- The bytes of a string. -/
theorem bytes_eq_encode (s : String) : s.toUTF8.data.toList = encode s.toList := by
  conv => lhs; rw [← String.ofList_toList (s := s)]
  rw [String.toUTF8, String.toByteArray_ofList, List.utf8Encode, List.toList_data_toByteArray]
  rfl

end DriveHealth.Text
