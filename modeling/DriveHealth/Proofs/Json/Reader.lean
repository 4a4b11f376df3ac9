/-
# Reading JSON

A reader of JSON, by the grammar of the format: white space between the parts of a value, short escapes and escapes
by code, two codes for a character beyond 16 bits, no control characters in a text, no needless zeros before a number,
no comma after the last item, and nothing after the value. The numbers are integers; one with a fraction or an exponent
is refused. The fields of an object are kept in their order, repeated keys too.

Key definitions: `Json.TextState`, `Json.readText`, `Json.readInt?`, `Json.readValue`, `Json.read?`.
Key theorems: `Json.readText_quoted`, `Json.readInt?_toString`, `Json.readScalar?_toString`.
-/
import DriveHealth.Json
import DriveHealth.Proofs.Numeral.Grouped
import DriveHealth.Toml.Number

namespace DriveHealth.Json

open Text
open Toml (hexValue isHexDigit)

/-! ### Texts -/

/-- Where the reading of a text stands. -/
inductive TextState
  | plain
  /-- After a backslash. -/
  | escaped
  /-- In the digits of a code, the first half of a pair before it if there is one. -/
  | code (half : Option Nat) (missing value : Nat)
  /-- After the first half of a pair, where a backslash has to come. -/
  | half (value : Nat)
  /-- After that backslash, where the letter of a code has to come. -/
  | halfEscaped (value : Nat)
  deriving DecidableEq

/-- The character that a letter after a backslash stands for. -/
def shortEscape? (c : Char) : Option Char :=
  [('"', '"'), ('\\', '\\'), ('/', '/'), ('b', '\u0008'), ('f', '\u000C'), ('n', '\n'), ('r', '\r'),
    ('t', '\t')].lookup c

/-- What a whole code gives: a character, or the first half of a pair. -/
def codeEnd? (value : Nat) : Option Nat → Option (List Char × TextState)
  | none =>
    if value.isValidChar then some ([Char.ofNat value], .plain)
    else if value < 0xDC00 then some ([], .half value)
    else none
  | some half =>
    if 0xDC00 ≤ value ∧ value < 0xE000 then
      some ([Char.ofNat (0x10000 + (half - 0xD800) * 0x400 + (value - 0xDC00))], .plain)
    else none

/-- One character of a text other than the closing quote: what is read with it and the state after it. -/
def textStep? : TextState → Char → Option (List Char × TextState)
  | .plain, c =>
    if c = '"' ∨ c.toNat < 0x20 then none else if c = '\\' then some ([], .escaped) else some ([c], .plain)
  | .escaped, c =>
    if c = 'u' then some ([], .code none 4 0) else (shortEscape? c).map fun x => ([x], .plain)
  | .code half missing value, c =>
    if !isHexDigit c then none
    else if 1 < missing then some ([], .code half (missing - 1) (value * 16 + hexValue c))
    else codeEnd? (value * 16 + hexValue c) half
  | .half value, c => if c = '\\' then some ([], .halfEscaped value) else none
  | .halfEscaped value, c => if c = 'u' then some ([], .code (some value) 4 0) else none

/-- The characters up to the closing quote, and what follows it. -/
def readText : TextState → List Char → Option (List Char × List Char)
  | _, [] => none
  | state, c :: s =>
    if state = .plain ∧ c = '"' then some ([], s)
    else
      match textStep? state c with
      | none => none
      | some (cs, next) => (readText next s).map fun r => (cs ++ r.1, r.2)

/-! ### Numbers and words -/

/-- Splits off a minus. -/
def splitMinus : List Char → Bool × List Char
  | '-' :: s => (true, s)
  | s => (false, s)

/-- At most one minus and digits, the first of them zero only when it is the only one. -/
def readInt? (s : List Char) : Option (Int × List Char) :=
  let (negative, s) := splitMinus s
  let digits := s.takeWhile Char.isDigit
  if digits = [] ∨ digits.head? = some '0' ∧ digits.length ≠ 1 then none
  else
    some (if negative then -(Numeral.value digits : Int) else Numeral.value digits, s.dropWhile Char.isDigit)

/-- The values that are written as words. -/
def words : List (List Char × Json) :=
  [("null".toList, null), ("true".toList, bool true), ("false".toList, bool false)]

def readScalar? (s : List Char) : Option (Json × List Char) :=
  (words.findSome? fun (word, j) => (word.isPrefixOf? s).map fun rest => (j, rest)).or
    ((readInt? s).map fun r => (int r.1, r.2))

/-! ### Values -/

def isSpace (c : Char) : Bool := [' ', '\t', '\n', '\r'].contains c

def skip (s : List Char) : List Char := s.dropWhile isSpace

mutual

/-- A value, white space before it skipped; the first argument bounds the reading. -/
def readValue : Nat → List Char → Option (Json × List Char)
  | 0, _ => none
  | fuel + 1, s =>
    match skip s with
    | '"' :: s => (readText .plain s).map fun r => (text (String.ofList r.1), r.2)
    | '[' :: s =>
      match skip s with
      | ']' :: s => some (array [], s)
      | s => (readItems fuel s).map fun r => (array r.1, r.2)
    | '\x7b' :: s =>
      match skip s with
      | '\x7d' :: s => some (object [], s)
      | s => (readFields fuel s).map fun r => (object r.1, r.2)
    | s => readScalar? s

/-- One or more items with commas between them, and the closing bracket. -/
def readItems : Nat → List Char → Option (List Json × List Char)
  | 0, _ => none
  | fuel + 1, s => do
    let (item, s) ← readValue fuel s
    match skip s with
    | ',' :: s => (readItems fuel s).map fun r => (item :: r.1, r.2)
    | ']' :: s => some ([item], s)
    | _ => none

/-- One or more fields with commas between them, and the closing brace. -/
def readFields : Nat → List Char → Option (List (String × Json) × List Char)
  | 0, _ => none
  | fuel + 1, s =>
    match skip s with
    | '"' :: s => do
      let (key, s) ← readText .plain s
      match skip s with
      | ':' :: s => do
        let (value, s) ← readValue fuel s
        match skip s with
        | ',' :: s => (readFields fuel s).map fun r => ((String.ofList key, value) :: r.1, r.2)
        | '\x7d' :: s => some ([(String.ofList key, value)], s)
        | _ => none
      | _ => none
    | _ => none

end

/-- The value of a whole text. -/
def read? (s : String) : Option Json :=
  match readValue (s.toList.length + 1) s.toList with
  | some (j, rest) => if rest.all isSpace then some j else none
  | none => none

variable {s rest digits cs out : List Char} {c : Char} {n : Nat} {state next : TextState}

/-! ### Texts that were written -/

/-- The characters of a text without the closing quote: what is read with them and the state after them. -/
def textSteps? : TextState → List Char → Option (List Char × TextState)
  | state, [] => some ([], state)
  | state, c :: s =>
    match textStep? state c with
    | none => none
    | some (cs, next) => (textSteps? next s).map fun r => (cs ++ r.1, r.2)

theorem readText_append (h : textSteps? state cs = some (out, next)) (s : List Char) :
    readText state (cs ++ s) = (readText next s).map fun r => (out ++ r.1, r.2) := by
  induction cs generalizing state out with
  | nil =>
    cases h
    simp
  | cons c cs ih =>
    unfold textSteps? at h
    cases hstep : textStep? state c with
    | none =>
      rw [hstep] at h
      cases h
    | some step =>
      obtain ⟨first, after⟩ := step
      rw [hstep] at h
      obtain ⟨⟨later, last⟩, hlater, heq⟩ := Option.map_eq_some_iff.mp h
      cases heq
      have hopen : ¬ (state = .plain ∧ c = '"') := by
        rintro ⟨rfl, rfl⟩
        cases hstep
      rw [List.cons_append, readText, if_neg hopen]
      simp only [hstep]
      rw [ih hlater, Option.map_map]
      simp [Function.comp_def]

theorem textSteps?_control : ∀ n ∈ List.range 0x20,
    textSteps? .plain (escapeChar (Char.ofNat n)) = some ([Char.ofNat n], .plain) := by
  decide +kernel

/-- An escaped character is read as the character. -/
theorem textSteps?_escapeChar (c : Char) : textSteps? .plain (escapeChar c) = some ([c], .plain) := by
  by_cases hcontrol : c.toNat < 0x20
  · have hsteps := textSteps?_control c.toNat (List.mem_range.mpr hcontrol)
    rwa [Char.ofNat_toNat] at hsteps
  by_cases hquote : c = '"'
  · rw [hquote]
    decide +kernel
  by_cases hbackslash : c = '\\'
  · rw [hbackslash]
    decide +kernel
  have hself : escapeChar c = [c] := by
    unfold escapeChar
    rw [if_neg hquote, if_neg hbackslash, if_neg, if_neg, if_neg, if_neg, if_neg, if_neg hcontrol]
    all_goals
      rintro rfl
      exact hcontrol (by decide)
  rw [hself]
  unfold textSteps? textStep?
  simp [hquote, hcontrol, hbackslash, textSteps?]

/-- A text in quotes is read as the text. -/
theorem readText_quoted (s rest : List Char) :
    readText .plain (s.flatMap escapeChar ++ '"' :: rest) = some (s, rest) := by
  induction s with
  | nil => simp [readText]
  | cons c s ih =>
    rw [List.flatMap_cons, List.append_assoc, readText_append (textSteps?_escapeChar c), ih]
    rfl

/-! ### Numbers and words that were written -/

/-- The first digit of a number is no zero, unless the number is zero. -/
theorem head?_toDigits (hn : 0 < n) : (Nat.toDigits 10 n).head? ≠ some '0' := by
  induction n using Nat.strong_induction_on with
  | _ n ih =>
    have hdigit : ∀ d ∈ List.range 10, 0 < d → Nat.digitChar d ≠ '0' := by decide
    rw [Nat.toDigits_eq_if (by decide)]
    split
    · rename_i hlt
      simpa using hdigit n (List.mem_range.mpr hlt) hn
    · rename_i hlarge
      rw [List.head?_append_of_ne_nil _ Nat.toDigits_ne_nil]
      exact ih (n / 10) (by omega) (by omega)

/-- A number has no needless zero before it. -/
theorem no_needless_zero (n : Nat) :
    ¬ ((toString n).toList.head? = some '0' ∧ (toString n).toList.length ≠ 1) := by
  rw [Nat.toString_eq_repr, Nat.toList_repr]
  rintro ⟨hzero, hlength⟩
  by_cases hn : 0 < n
  · exact head?_toDigits hn hzero
  · obtain rfl : n = 0 := by omega
    exact hlength rfl

theorem toList_toString_int (n : Int) :
    (toString n).toList = if 0 ≤ n then (toString n.toNat).toList else '-' :: (toString (-n).toNat).toList := by
  rw [Int.toString_eq_repr, Int.repr_eq_if]
  split <;> simp

/-- A written number starts with a digit. -/
theorem exists_digit_toString (n : Nat) : ∃ c later, (toString n).toList = c :: later ∧ c.isDigit = true := by
  have hdigits := Numeral.isDigits_toString n
  obtain ⟨c, later, hc⟩ := List.exists_cons_of_ne_nil hdigits.1
  exact ⟨c, later, hc, hdigits.2 c (hc ▸ List.mem_cons_self)⟩

theorem splitMinus_toString (n : Nat) (rest : List Char) :
    splitMinus ((toString n).toList ++ rest) = (false, (toString n).toList ++ rest) := by
  obtain ⟨c, later, htext, hc⟩ := exists_digit_toString n
  rw [htext, List.cons_append]
  unfold splitMinus
  split
  · rename_i heq
    cases heq
    cases hc
  · rfl

/-- A number that was written is read to its last digit. -/
theorem readInt?_toString (n : Int) (hrest : Stops Char.isDigit rest) :
    readInt? ((toString n).toList ++ rest) = some (n, rest) := by
  have hread (k : Nat) : ((toString k).toList ++ rest).takeWhile Char.isDigit = (toString k).toList ∧
      ((toString k).toList ++ rest).dropWhile Char.isDigit = rest ∧
      ¬ ((toString k).toList = [] ∨ (toString k).toList.head? = some '0' ∧ (toString k).toList.length ≠ 1) := by
    have hdigits := Numeral.isDigits_toString k
    exact ⟨takeWhile_run hdigits.2 hrest, dropWhile_run hdigits.2 hrest,
      not_or.mpr ⟨hdigits.1, no_needless_zero k⟩⟩
  rw [toList_toString_int]
  unfold readInt?
  by_cases hn : 0 ≤ n
  · obtain ⟨htake, hdrop, hwhole⟩ := hread n.toNat
    rw [if_pos hn, splitMinus_toString]
    simp only [htake, hdrop]
    rw [if_neg hwhole, Numeral.value_toString]
    simp [Int.toNat_of_nonneg hn]
  · obtain ⟨htake, hdrop, hwhole⟩ := hread (-n).toNat
    rw [if_neg hn, List.cons_append, splitMinus]
    simp only [htake, hdrop]
    rw [if_neg hwhole, Numeral.value_toString]
    simp
    omega

/-- A digit or a minus. -/
def StartsNumber (c : Char) : Prop := c.isDigit = true ∨ c = '-'

instance (c : Char) : Decidable (StartsNumber c) := inferInstanceAs (Decidable (_ ∨ _))

theorem exists_head_toString (n : Int) : ∃ c later, (toString n).toList = c :: later ∧ StartsNumber c := by
  rw [toList_toString_int]
  split
  · obtain ⟨c, later, htext, hc⟩ := exists_digit_toString n.toNat
    exact ⟨c, later, htext, .inl hc⟩
  · exact ⟨'-', _, rfl, .inr rfl⟩

theorem StartsNumber.ne {other : Char} (hc : StartsNumber c) (hother : ¬ StartsNumber other) : c ≠ other := by
  rintro rfl
  exact hother hc

/-- A written number is no word. -/
theorem readScalar?_toString (n : Int) (hrest : Stops Char.isDigit rest) :
    readScalar? ((toString n).toList ++ rest) = some (int n, rest) := by
  have hwords : (words.findSome? fun (word, j) =>
      (word.isPrefixOf? ((toString n).toList ++ rest)).map fun rest => (j, rest)) = none := by
    obtain ⟨c, later, htext, hc⟩ := exists_head_toString n
    have hn : 'n' ≠ c := (hc.ne (by decide)).symm
    have ht : 't' ≠ c := (hc.ne (by decide)).symm
    have hf : 'f' ≠ c := (hc.ne (by decide)).symm
    rw [htext]
    simp [words, List.isPrefixOf?, hn, ht, hf]
  unfold readScalar?
  rw [hwords, readInt?_toString n hrest]
  rfl

/-- A word is read to its last letter. -/
theorem readScalar?_word : ∀ w ∈ words, readScalar? (w.1 ++ rest) = some (w.2, rest) := by
  simp only [words, List.forall_mem_cons]
  exact ⟨rfl, rfl, rfl, fun w hw => absurd hw List.not_mem_nil⟩

end DriveHealth.Json
