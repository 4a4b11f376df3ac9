/-
# Integers read from bytes

The integer at the start of a text can be read from the bytes of the text as well. The first byte tells whether a sign
stands there, the text behind a sign starts at the second byte, and digits and commas are looked for byte by byte.
Nothing goes wrong on the way: a sign is one byte, so no character is cut, no byte of a longer character is taken for
a digit or a comma, and a number of 63 bits has a negative. So the bytes give the integer that the characters give.

Key definitions: `Numeral.Fault`, `Numeral.digitBytes`, `Numeral.integerOfBytes`.
Key theorems: `Numeral.digitBytes_encode`, `Numeral.signOfBytes_encode`, `Numeral.integerOfBytes_encode`,
`Numeral.longest_numeral_is_read`.
-/
import DriveHealth.Proofs.Numeral.Longest
import DriveHealth.Proofs.Text.Utf8

namespace DriveHealth.Numeral

open Text

/-! ### The reader -/

/-- What can go wrong for a reader of bytes. -/
inductive Fault where
  /-- A text would start inside a character. -/
  | insideCharacter
  /-- The least number of 64 bits has no negative. -/
  | overflow

/-- The text from the second byte on, where a character has to start. -/
def behindFirst : List UInt8 → Except Fault (List UInt8)
  | [] => .error .insideCharacter
  | [_] => .ok []
  | _ :: b :: bytes => if b.toNat < 0x80 ∨ 0xC0 ≤ b.toNat then .ok (b :: bytes) else .error .insideCharacter

/-- Splits off one sign; true stands for the minus. -/
def signOfBytes (bytes : List UInt8) : Except Fault (Bool × List UInt8) :=
  if bytes.head? = some 0x2D then (behindFirst bytes).map fun rest => (true, rest)
  else if bytes.head? = some 0x2B then (behindFirst bytes).map fun rest => (false, rest)
  else .ok (false, bytes)

def isDigitByte (b : UInt8) : Bool := 0x30 ≤ b.toNat && b.toNat ≤ 0x39

/-- The digits at the start without the commas between them; `begun` tells that a digit was read. -/
def digitBytes (begun : Bool) : List UInt8 → List UInt8
  | [] => []
  | b :: bytes =>
    if isDigitByte b then b :: digitBytes true bytes
    else if b = 0x2C ∧ begun ∧ bytes.head?.any isDigitByte then digitBytes begun bytes
    else []

def negate (n : Int64) : Except Fault Int64 := if n = Int64.minValue then .error .overflow else .ok (-n)

/-- The integer at the start of a text without blanks before it. -/
def integerOfBytes (bytes : List UInt8) : Except Fault (Option Int64) := do
  let (negative, rest) ← signOfBytes bytes
  match read? maxSigned64 ((digitBytes false rest).map fun b => Char.ofNat b.toNat) with
  | none => return none
  | some n => if negative then return some (← negate (Int64.ofNat n)) else return some (Int64.ofNat n)

variable {c : Char} {s : List Char} {o : Opening}

/-! ### Bytes of ASCII -/

theorem encode_ascii (h : c.toNat < 0x80) (s : List Char) : encode (c :: s) = UInt8.ofNat c.toNat :: encode s := by
  rw [encode, List.flatMap_cons, encodeChar_of_ascii h]
  rfl

theorem encode_not_ascii (h : 0x80 ≤ c.toNat) (s : List Char) :
    ∃ b bytes, encode (c :: s) = b :: bytes ∧ 0xC0 ≤ b.toNat := by
  obtain ⟨b, more, hc, hb⟩ := encodeChar_of_not_ascii h
  refine ⟨b, more ++ encode s, ?_, hb⟩
  rw [encode, List.flatMap_cons, hc]
  rfl

theorem ofNat_toNat_inj {d : Char} (hc : c.toNat < 0x80) (hd : d.toNat < 0x80) :
    UInt8.ofNat c.toNat = UInt8.ofNat d.toNat ↔ c = d := by
  refine ⟨fun h => ?_, fun h => by rw [h]⟩
  have hnat := congrArg UInt8.toNat h
  rw [toNat_byte (by omega), toNat_byte (by omega)] at hnat
  exact Char.toNat_inj.mp hnat

/-- The first byte is that of an ASCII character only if that one stands first. -/
theorem head?_encode_eq_some (h : c.toNat < 0x80) :
    (encode s).head? = some (UInt8.ofNat c.toNat) ↔ s.head? = some c := by
  cases s with
  | nil => simp [encode]
  | cons d s =>
    rw [List.head?_cons, Option.some.injEq]
    by_cases hd : d.toNat < 0x80
    · rw [encode_ascii hd, List.head?_cons, Option.some.injEq, ofNat_toNat_inj hd h]
    · obtain ⟨b, bytes, hbytes, hb⟩ := encode_not_ascii (Nat.le_of_not_lt hd) s
      rw [hbytes, List.head?_cons, Option.some.injEq]
      refine iff_of_false ?_ ?_
      · rintro rfl
        rw [toNat_byte (by omega)] at hb
        omega
      · rintro rfl
        exact hd h

theorem isDigit_iff : c.isDigit = true ↔ 0x30 ≤ c.toNat ∧ c.toNat ≤ 0x39 := by
  simp only [Char.isDigit, Bool.and_eq_true, decide_eq_true_eq]
  rfl

theorem isDigitByte_ofNat (h : c.toNat < 0x80) : isDigitByte (UInt8.ofNat c.toNat) = c.isDigit := by
  rw [Bool.eq_iff_iff, isDigit_iff]
  simp only [isDigitByte, toNat_byte (show c.toNat < 256 by omega), Bool.and_eq_true, decide_eq_true_eq]

theorem isDigitByte_of_le {b : UInt8} (h : 0xC0 ≤ b.toNat) : isDigitByte b = false := by
  rw [← Bool.not_eq_true]
  simp only [isDigitByte, Bool.and_eq_true, decide_eq_true_eq]
  omega

/-- A digit stands first among the bytes just when one stands first in the text. -/
theorem startsWithDigit_encode (s : List Char) : (encode s).head?.any isDigitByte = startsWithDigit s := by
  cases s with
  | nil => rfl
  | cons c s =>
    rw [startsWithDigit]
    by_cases hc : c.toNat < 0x80
    · rw [encode_ascii hc, List.head?_cons, Option.any_some, isDigitByte_ofNat hc]
    · obtain ⟨b, bytes, hbytes, hb⟩ := encode_not_ascii (Nat.le_of_not_lt hc) s
      rw [hbytes, List.head?_cons, Option.any_some, isDigitByte_of_le hb]
      symm
      rw [← Bool.not_eq_true, isDigit_iff]
      omega

/-! ### What is read of the bytes -/

/-- The bytes give the digits of the text. -/
theorem digitBytes_encode (begun : Bool) (s : List Char) :
    (digitBytes begun (encode s)).map (fun b => Char.ofNat b.toNat) = groupedDigits begun s := by
  induction s generalizing begun with
  | nil => rfl
  | cons c s ih =>
    rw [groupedDigits]
    by_cases hc : c.toNat < 0x80
    · have hcomma : UInt8.ofNat c.toNat = 0x2C ↔ c = ',' := ofNat_toNat_inj (d := ',') hc (by decide)
      have hchar : Char.ofNat (UInt8.ofNat c.toNat).toNat = c := by
        rw [toNat_byte (by omega), Char.ofNat_toNat]
      rw [encode_ascii hc, digitBytes, isDigitByte_ofNat hc, startsWithDigit_encode]
      simp only [hcomma]
      split_ifs
      · rw [List.map_cons, hchar, ih]
      · exact ih begun
      · rfl
    · -- neither the text nor its bytes go on
      obtain ⟨b, bytes, hbytes, hb⟩ := encode_not_ascii (Nat.le_of_not_lt hc) s
      have hdigit : ¬ c.isDigit = true := by
        rw [isDigit_iff]
        omega
      have hcomma : c ≠ ',' := by
        rintro rfl
        exact hc (by decide)
      have hcommaByte : b ≠ 0x2C := by
        rintro rfl
        exact absurd hb (by decide)
      rw [hbytes, digitBytes, isDigitByte_of_le hb, if_neg Bool.false_ne_true, if_neg fun h => hcommaByte h.1,
        if_neg hdigit, if_neg fun h => hcomma h.1]
      rfl

/-- No character is cut behind a byte of ASCII. -/
theorem behindFirst_encode (h : c.toNat < 0x80) (s : List Char) : behindFirst (encode (c :: s)) = .ok (encode s) := by
  rw [encode_ascii h]
  cases s with
  | nil => rfl
  | cons d s =>
    by_cases hd : d.toNat < 0x80
    · rw [encode_ascii hd, behindFirst, toNat_byte (by omega), if_pos (.inl hd)]
    · obtain ⟨b, bytes, hbytes, hb⟩ := encode_not_ascii (Nat.le_of_not_lt hd) s
      rw [hbytes, behindFirst, if_pos (.inr hb)]

/-- The sign is split off, and the text behind it is whole. -/
theorem signOfBytes_encode (h : o.Fits) :
    signOfBytes (encode (o.sign ++ o.rest)) = .ok (decide (o.sign = ['-']), encode o.rest) := by
  have hminus : (encode (o.sign ++ o.rest)).head? = some 0x2D ↔ (o.sign ++ o.rest).head? = some '-' :=
    head?_encode_eq_some (c := '-') (by decide)
  have hplus : (encode (o.sign ++ o.rest)).head? = some 0x2B ↔ (o.sign ++ o.rest).head? = some '+' :=
    head?_encode_eq_some (c := '+') (by decide)
  unfold signOfBytes
  simp only [hminus, hplus]
  rcases h.sign with hsign | hsign | hsign
  · have hrest := h.rest hsign
    rw [hsign, List.nil_append, if_neg, if_neg]
    · rfl
    · exact fun hhead => absurd rfl (hrest '+' hhead).2.1
    · exact fun hhead => absurd rfl (hrest '-' hhead).2.2
  · rw [hsign, List.singleton_append, behindFirst_encode (by decide)]
    rfl
  · rw [hsign, List.singleton_append, behindFirst_encode (by decide)]
    rfl

/-- A number of 63 bits has a negative. -/
theorem negate_ofNat {n : Nat} (h : n ≤ maxSigned64) : negate (Int64.ofNat n) = .ok (Int64.ofInt (-n)) := by
  have hint : (Int64.ofNat n).toInt = n := by
    rw [← Int64.ofInt_eq_ofNat]
    unfold maxSigned64 at h
    exact Int64.toInt_ofInt_of_le (by omega) (by omega)
  have hleast : Int64.ofNat n ≠ Int64.minValue := fun heq => by
    rw [heq, Int64.toInt_minValue] at hint
    omega
  rw [negate, if_neg hleast, Int64.ofInt_neg, Int64.ofInt_eq_ofNat]

/-- **The bytes of a text give its integer**, and nothing goes wrong on the way. -/
theorem integerOfBytes_encode (h : o.Fits) :
    integerOfBytes (encode (o.sign ++ o.rest)) = .ok ((leadingInt o.text).map Int64.ofInt) := by
  rw [h.leadingInt_text, integerOfBytes, signOfBytes_encode h]
  simp only [bind, Except.bind, digitBytes_encode]
  cases hread : read? maxSigned64 (groupedDigits false o.rest) with
  | none => rfl
  | some n =>
    have hle : n ≤ maxSigned64 := by
      obtain ⟨hbelow, rfl⟩ := read?_eq_some.mp hread
      exact Nat.le_of_lt_succ hbelow.2.2
    simp only [decide_eq_true_eq, Option.map_some, Opening.signed]
    split
    · rw [negate_ofNat hle]
      rfl
    · rw [Int64.ofInt_eq_ofNat]
      rfl

/-! ### The integer of a text -/

/-- **A text is read by its longest numeral.** Behind its blanks and its sign, which can be cut off in one way only, a
text has an integer just when a numeral stands there and the longest one does not exceed 63 bits. The integer is the
number of that numeral without its commas, with the sign. It has a negative of 64 bits, and reading the bytes gives it
without a fault. What stands behind the numeral does not matter, nor how its digits are grouped. -/
theorem longest_numeral_is_read (s : List Char) :
    ∃ o : Opening, (o.Fits ∧ o.text = s ∧ ∀ o' : Opening, o'.Fits → o'.text = s → o' = o) ∧
      (leadingInt s = none ↔
        (∀ p, IsGrouped p → ¬ p <+: o.rest) ∨ ∃ p, IsLongest p o.rest ∧ maxSigned64 < value (ungrouped p)) ∧
      (∀ n, leadingInt s = some n ↔
        ∃ p, IsLongest p o.rest ∧ value (ungrouped p) ≤ maxSigned64 ∧ n = o.signed (value (ungrouped p))) ∧
      (∀ n, leadingInt s = some n → -(maxSigned64 : Int) ≤ n ∧ n ≤ maxSigned64) ∧
      integerOfBytes (encode (trimStart s)) = .ok ((leadingInt s).map Int64.ofInt) ∧
      (∀ p later, IsLongest p o.rest → IsLongest p (p ++ later) →
        leadingInt (o.blanks ++ (o.sign ++ (p ++ later))) = leadingInt s) ∧
      (∀ p behind, IsLongest p o.rest → o.rest = p ++ behind →
        leadingInt (o.blanks ++ (o.sign ++ (ungrouped p ++ behind))) = leadingInt s ∧
        ∀ q, IsGrouped q → ungrouped q = ungrouped p →
          leadingInt (o.blanks ++ (o.sign ++ (q ++ behind))) = leadingInt s) := by
  obtain ⟨o, h, rfl⟩ := exists_opening s
  refine ⟨o, ⟨h, rfl, fun o' h' heq => h'.unique h heq⟩, leadingInt_eq_none h, fun n => leadingInt_eq_some h,
    fun n hn => leadingInt_bounds hn, ?_, ?_, ?_⟩
  · rw [h.trimStart_text]
    exact integerOfBytes_encode h
  · intro p later hlongest hlater
    exact leadingInt_regrouped h hlongest hlater rfl
  · intro p behind hlongest hbehind
    have hlongest' : IsLongest p (p ++ behind) := hbehind ▸ hlongest
    obtain ⟨hplain, hdigits⟩ := hlongest.grouped.ungrouped
    exact ⟨leadingInt_regrouped h hlongest (hlongest'.of_append hplain) hdigits,
      fun q hq hsame => leadingInt_regrouped h hlongest (hlongest'.of_append hq) hsame⟩

/-- The largest number with a sign, the next one, and a sign without digits. -/
example : leadingInt " -9,223,372,036,854,775,807,x".toList = some (-9223372036854775807) ∧
    leadingInt "9223372036854775808".toList = none ∧ leadingInt "- 5".toList = none := by
  decide +kernel

end DriveHealth.Numeral
