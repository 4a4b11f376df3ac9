/-
# Self-tests

What a drive keeps of a self-test, and the rows of its self-test log. A row starts with a number sign
and has six columns: number, kind, status, per cent remaining, hours, first error. The status is free
text, so a line may be cut in several ways. The gap before the status is taken as long as possible and
then the status as short as possible; the numbers decide only afterwards whether the row counts.

Key definitions: `SelfTest.Kind`, `SelfTest`, `SelfTest.Columns`, `SelfTest.Columns.read?`,
`SelfTest.ofColumns?`, `SelfTest.ofLine?`, `SelfTest.log`.
-/
import DriveHealth.Numeral

namespace DriveHealth

inductive SelfTest.Kind
  | shortOffline
  | extendedOffline
  | shortCaptive
  | extendedCaptive
  deriving DecidableEq, Repr, Inhabited

namespace SelfTest.Kind

def all : List Kind := [shortOffline, extendedOffline, shortCaptive, extendedCaptive]

def label : Kind → String
  | shortOffline => "Short offline"
  | extendedOffline => "Extended offline"
  | shortCaptive => "Short captive"
  | extendedCaptive => "Extended captive"

def ofLabel? (label : String) : Option Kind := all.find? fun k => k.label = label

/-- A kind is found again by its label. -/
theorem ofLabel?_label (k : Kind) : ofLabel? k.label = some k := by cases k <;> decide

end SelfTest.Kind

structure SelfTest where
  number : Nat
  kind : SelfTest.Kind
  status : String
  /-- Per cent of the test not yet done. -/
  remaining : Nat
  /-- Power-on hours when the test ran. -/
  hours : Nat
  /-- An address, or a dash when there was no error. -/
  firstError : String
  deriving DecidableEq, Repr

/-! ### Rows of the log -/

namespace SelfTest

open Text Numeral

/-- The columns after the status as they stand in the line. -/
structure Ending where
  remaining : List Char
  hours : List Char
  firstError : List Char
  deriving DecidableEq, Repr

/-- The columns of a row as they stand in the line. -/
structure Columns where
  number : List Char
  kind : Kind
  status : List Char
  ending : Ending
  deriving DecidableEq, Repr

/-- The columns after the status, of which `s` starts with the gap before them. -/
def Ending.read? (s : List Char) : Option Ending := do
  let (remaining, s) ← afterGap? s >>= digitRun?
  let s ← ['%'].isPrefixOf? s
  let (hours, s) ← afterGap? s >>= digitRun?
  let firstError ← lastColumn? s
  some { remaining, hours, firstError }

/-- The shortest status at the start of the text that the columns after it follow. -/
def shortestStatus? : List Char → Option (List Char × Ending)
  | [] => none
  | c :: s =>
    if c = '\n' then none
    else
      match Ending.read? s with
      | some ending => some ([c], ending)
      | none => (shortestStatus? s).map fun (status, ending) => (c :: status, ending)

/-- Splits off the kind's label at the start. -/
def kindPrefix? (s : List Char) : Option (Kind × List Char) :=
  Kind.all.findSome? fun k => (k.label.toList.isPrefixOf? s).map fun rest => (k, rest)

/-- The columns of a line. Of the gaps before the status that leave a status the longest counts. -/
def Columns.read? (line : List Char) : Option Columns := do
  let s ← ['#'].isPrefixOf? line
  let (number, s) ← digitRun? (trimStart s)
  let (kind, s) ← afterGap? s >>= kindPrefix?
  let gap := (s.takeWhile isBlank).length
  let (status, ending) ← (List.range gap).reverse.findSome? fun n => shortestStatus? (s.drop (n + 1))
  some { number, kind, status, ending }

/-- The self-test of a row. -/
def ofColumns? (c : Columns) : Option SelfTest := do
  let remaining ← Numeral.read? 100 c.ending.remaining
  let number ← Numeral.read? max32 c.number
  let hours ← Numeral.read? max64 c.ending.hours
  some
    { number, remaining, hours
      kind := c.kind
      status := String.ofList c.status
      firstError := String.ofList c.ending.firstError }

/-- The self-test on a line. -/
def ofLine? (line : String) : Option SelfTest := Columns.read? line.toList >>= ofColumns?

/-- The rows among the lines, in their order. -/
def log (lines : List String) : List SelfTest := lines.filterMap ofLine?

end SelfTest

end DriveHealth
