/-
# Dates and times in TOML

A moment is a date, a time of day, or both, and what has both may tell its distance from universal
time. A day has to exist in its month; the second 60 is allowed; of the parts of a second nine digits
count. Every moment has one text, in which the letters are capital and no zero ends the parts of a
second.

Key definitions: `Toml.Moment`, `Toml.Moment.ofWord?`, `Toml.Moment.text`.
-/
import DriveHealth.Toml.Number

namespace DriveHealth.Toml

structure Date where
  year : Nat
  month : Nat
  day : Nat
  deriving DecidableEq, Repr

structure TimeOfDay where
  hour : Nat
  minute : Nat
  second : Nat
  nanosecond : Nat
  deriving DecidableEq, Repr

/-- The distance from universal time. -/
inductive Offset
  | universal
  /-- Minutes to the east. -/
  | minutes (east : Int)
  deriving DecidableEq, Repr

inductive Moment
  | date (d : Date)
  | time (t : TimeOfDay)
  | dateTime (d : Date) (t : TimeOfDay) (offset : Option Offset)
  deriving DecidableEq, Repr

/-! ### Reading -/

/-- A number of exactly two digits. -/
def two? (a b : Char) : Option Nat :=
  if a.isDigit && b.isDigit then some (valueIn 10 [a, b]) else none

def isLeapYear (y : Nat) : Bool := y % 4 = 0 && (y % 100 ≠ 0 || y % 400 = 0)

def daysIn (year month : Nat) : Nat :=
  if month = 2 then (if isLeapYear year then 29 else 28)
  else if month ∈ [4, 6, 9, 11] then 30
  else 31

/-- The day is there in the calendar. -/
def Date.exists (d : Date) : Bool :=
  1 ≤ d.month && d.month ≤ 12 && 1 ≤ d.day && d.day ≤ daysIn d.year d.month

/-- The ten characters of a date at the start of a word. -/
def splitDate? : List Char → Option (Date × List Char)
  | y1 :: y2 :: y3 :: y4 :: '-' :: m1 :: m2 :: '-' :: d1 :: d2 :: rest => do
    let century ← two? y1 y2
    let year ← two? y3 y4
    let month ← two? m1 m2
    let day ← two? d1 d2
    let date : Date := ⟨century * 100 + year, month, day⟩
    if date.exists then some (date, rest) else none
  | _ => none

/-- The nanoseconds for the digits after the point, of which the first nine count. -/
def nanosecondsOf (digits : List Char) : Nat := valueIn 10 ((digits ++ List.replicate 9 '0').take 9)

/-- The parts of a second at the start of a word, none of which there may be. -/
def splitFraction? : List Char → Option (Nat × List Char)
  | '.' :: s =>
    let digits := s.takeWhile Char.isDigit
    if digits = [] then none else some (nanosecondsOf digits, s.dropWhile Char.isDigit)
  | s => some (0, s)

/-- Hours, minutes and seconds at the start of a word, with parts of a second if there are any. -/
def splitTime? : List Char → Option (TimeOfDay × List Char)
  | h1 :: h2 :: ':' :: m1 :: m2 :: ':' :: s1 :: s2 :: rest => do
    let hour ← two? h1 h2
    let minute ← two? m1 m2
    let second ← two? s1 s2
    if 24 ≤ hour ∨ 60 ≤ minute ∨ 60 < second then none
    let (nanosecond, rest) ← splitFraction? rest
    some (⟨hour, minute, second, nanosecond⟩, rest)
  | _ => none

/-- The distance from universal time, or nothing. -/
def offset? : List Char → Option (Option Offset)
  | [] => some none
  | ['Z'] => some (some .universal)
  | ['z'] => some (some .universal)
  | [sign, h1, h2, ':', m1, m2] => do
    let hours ← two? h1 h2
    let minutes ← two? m1 m2
    if 24 ≤ hours ∨ 60 ≤ minutes then none
    let distance : Int := hours * 60 + minutes
    if sign = '+' then some (some (.minutes distance))
    else if sign = '-' then some (some (.minutes (-distance)))
    else none
  | _ => none

/-- A date with the time in the second word. -/
def Moment.ofDateTime? (d : Date) (word : List Char) : Option Moment := do
  let (t, rest) ← splitTime? word
  let offset ← offset? rest
  some (.dateTime d t offset)

/-- The moment that a word denotes; a letter T parts the date from the time. -/
def Moment.ofWord? (word : List Char) : Option Moment :=
  match splitDate? word with
  | some (d, []) => some (.date d)
  | some (d, c :: rest) => if c = 'T' ∨ c = 't' then Moment.ofDateTime? d rest else none
  | none =>
    match splitTime? word with
    | some (t, []) => some (.time t)
    | _ => none

/-! ### Writing -/

/-- A number with zeros before it, as many as it lacks of `width` digits. -/
def zeroPadded (width n : Nat) : String :=
  let digits := toString n
  String.ofList (List.replicate (width - digits.length) '0') ++ digits

def Date.text (d : Date) : String :=
  zeroPadded 4 d.year ++ "-" ++ zeroPadded 2 d.month ++ "-" ++ zeroPadded 2 d.day

/-- The parts of a second after a point, without the zeros at their end; nothing when there are none. -/
def fractionText (nanosecond : Nat) : String :=
  if nanosecond = 0 then ""
  else
    let digits := (zeroPadded 9 nanosecond).toList
    "." ++ String.ofList (digits.reverse.dropWhile (· = '0')).reverse

def TimeOfDay.text (t : TimeOfDay) : String :=
  zeroPadded 2 t.hour ++ ":" ++ zeroPadded 2 t.minute ++ ":" ++ zeroPadded 2 t.second
    ++ fractionText t.nanosecond

/-- No distance counts as one to the east. -/
def Offset.text : Offset → String
  | universal => "Z"
  | minutes east =>
    let sign := if east < 0 then "-" else "+"
    sign ++ zeroPadded 2 (east.natAbs / 60) ++ ":" ++ zeroPadded 2 (east.natAbs % 60)

def Moment.text : Moment → String
  | date d => d.text
  | time t => t.text
  | dateTime d t offset => d.text ++ "T" ++ t.text ++ (offset.map Offset.text).getD ""

/-- The key under which a moment stands where a table is expected. -/
def Moment.key : String := "$__toml_private_datetime"

end DriveHealth.Toml
