/-
# Numerals

A column of digits is a bounded natural number: it is read only if all its digits are those of ASCII
and its value does not exceed the bound. A raw value or a counter is read from its start: blanks, one
sign and digits, in which a comma between two digits only groups them.

Key definitions: `Numeral.read?`, `Numeral.digitRun?`, `Numeral.leadingInt`.
-/
import DriveHealth.Text.Layout

namespace DriveHealth.Numeral

open Text

/-- The number that a text of ASCII digits denotes. -/
def value (digits : List Char) : Nat := Nat.ofDigitChars 10 digits 0

/-- The number of a whole text of ASCII digits, none above `limit`. -/
def read? (limit : Nat) (digits : List Char) : Option Nat :=
  if digits ≠ [] ∧ digits.all Char.isDigit ∧ value digits ≤ limit then some (value digits) else none

/-- The largest number of 32 bits. -/
def max32 : Nat := 0xFFFFFFFF

/-- The largest number of 64 bits. -/
def max64 : Nat := 0xFFFFFFFFFFFFFFFF

/-- The largest signed number of 64 bits. -/
def maxSigned64 : Nat := 0x7FFFFFFFFFFFFFFF

/-- Splits off the decimal digits of any script at the start, at least one. -/
def digitRun? (s : List Char) : Option (List Char × List Char) :=
  let digits := s.takeWhile isDecimal
  if digits = [] then none else some (digits, s.dropWhile isDecimal)

/-- A digit stands at the start. -/
def startsWithDigit : List Char → Bool
  | [] => false
  | c :: _ => c.isDigit

/-- The digits at the start without the commas between them; `begun` tells that a digit was read. -/
def groupedDigits (begun : Bool) : List Char → List Char
  | [] => []
  | c :: s =>
    if c.isDigit then c :: groupedDigits true s
    else if c = ',' ∧ begun ∧ startsWithDigit s then groupedDigits begun s
    else []

/-- Splits off one sign; true stands for the minus. -/
def sign : List Char → Bool × List Char
  | '-' :: s => (true, s)
  | '+' :: s => (false, s)
  | s => (false, s)

/-- The integer at the start of a text, none where no digit stands or the digits exceed 63 bits. -/
def leadingInt (s : List Char) : Option Int :=
  let (negative, rest) := sign (trimStart s)
  (read? maxSigned64 (groupedDigits false rest)).map fun n => if negative then -(n : Int) else n

end DriveHealth.Numeral
