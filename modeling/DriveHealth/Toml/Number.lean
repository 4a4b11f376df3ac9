/-
# Numbers and truth values in TOML

Only whether a word is one of them is asked here. An integer has to fit 64 bits with its sign, and a
float must not be so large that it is rounded to infinity.

Key definitions: `Toml.isInteger`, `Toml.isFloat`, `Toml.isScalar`.
-/

namespace DriveHealth.Toml

/-! ### Digits -/

/-- The digits of a word in which single underscores may stand between two digits; none if it is not
such a word. -/
def plainDigits (isDigit : Char → Bool) : List Char → Option (List Char)
  | [] => none
  | [c] => if isDigit c then some [c] else none
  | c :: '_' :: rest => if isDigit c then (plainDigits isDigit rest).map (c :: ·) else none
  | c :: rest => if isDigit c then (plainDigits isDigit rest).map (c :: ·) else none

def hexValue (c : Char) : Nat :=
  if c.isDigit then c.toNat - 48 else if 97 ≤ c.toNat then c.toNat - 87 else c.toNat - 55

def isHexDigit (c : Char) : Bool :=
  c.isDigit || ('a' ≤ c && c ≤ 'f') || ('A' ≤ c && c ≤ 'F')

/-- The number that digits denote in a base. -/
def valueIn (base : Nat) (digits : List Char) : Nat :=
  digits.foldl (fun n c => n * base + hexValue c) 0

/-- Digits without a needless zero at the start. -/
def decimal? (word : List Char) : Option (List Char) :=
  match plainDigits Char.isDigit word with
  | some ('0' :: _ :: _) => none
  | digits => digits

/-- Splits off a sign; true stands for the minus. -/
def splitSign : List Char → Bool × List Char
  | '-' :: s => (true, s)
  | '+' :: s => (false, s)
  | s => (false, s)

/-! ### Integers and floats -/

/-- The first number that does not fit 64 bits with a sign. -/
def tooLarge : Nat := 0x8000000000000000

/-- The first number that is rounded to infinity. -/
def tooLargeFloat : Nat := Nat.pow 2 1024 - Nat.pow 2 970

def isInteger : List Char → Bool
  | '0' :: 'x' :: word => (plainDigits isHexDigit word).any fun ds => valueIn 16 ds < tooLarge
  | '0' :: 'o' :: word =>
    (plainDigits (fun c => '0' ≤ c && c ≤ '7') word).any fun ds => valueIn 8 ds < tooLarge
  | '0' :: 'b' :: word =>
    (plainDigits (fun c => c == '0' || c == '1') word).any fun ds => valueIn 2 ds < tooLarge
  | word =>
    let (negative, word) := splitSign word
    (decimal? word).any fun ds => valueIn 10 ds < tooLarge + if negative then 1 else 0

/-- The digits and the power of ten of a float denote a number that is rounded to infinity. -/
def overflows (digits : List Char) (power : Int) : Bool :=
  let digits := digits.dropWhile (· == '0')
  let magnitude : Int := digits.length + power
  if digits = [] ∨ magnitude < 300 then false
  else if 320 < magnitude then true
  else if 0 ≤ power then tooLargeFloat ≤ valueIn 10 digits * Nat.pow 10 power.toNat
  else tooLargeFloat * Nat.pow 10 (-power).toNat ≤ valueIn 10 digits

/-- The number after the letter of an exponent. -/
def exponent? (word : List Char) : Option Int :=
  let (negative, word) := splitSign word
  (plainDigits Char.isDigit word).map fun ds =>
    if negative then -(valueIn 10 ds : Int) else (valueIn 10 ds : Int)

def isFloat (word : List Char) : Bool :=
  let (negative, word) := splitSign word
  if word = "inf".toList ∨ word = "nan".toList then true
  else
    let isMark : Char → Bool := fun c => c == 'e' || c == 'E'
    let number := word.takeWhile fun c => !isMark c
    let tail := word.dropWhile fun c => !isMark c
    let whole := number.takeWhile (· ≠ '.')
    let places := number.dropWhile (· ≠ '.')
    let exponent := if tail = [] then some 0 else exponent? tail.tail
    let fraction := if places = [] then some [] else plainDigits Char.isDigit places.tail
    match decimal? whole, fraction, exponent with
    | some ds, some fs, some e =>
      (tail ≠ [] || places ≠ []) && (negative || !overflows (ds ++ fs) (e - fs.length))
    | _, _, _ => false

/-- The word is a number or a truth value. -/
def isScalar (word : List Char) : Bool :=
  word = "true".toList || word = "false".toList || isInteger word || isFloat word

end DriveHealth.Toml
