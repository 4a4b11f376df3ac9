/-
# Rows of the attribute table

A row has eight columns: number, name, flags, value, worst value, threshold, when failed, raw value.
A line that has not these columns is no row, and neither is one with a number too large for 32 bits or
with digits that are not of ASCII.

Key definitions: `Attribute.Columns`, `Attribute.Columns.read?`, `Attribute.ofColumns?`,
`Attribute.ofLine?`, `Attribute.table`.
-/
import DriveHealth.Attribute.Basic
import DriveHealth.Attribute.Description
import DriveHealth.Text.Layout

namespace DriveHealth.Attribute

open Text

/-- The columns of a row as they stand in the line. -/
structure Columns where
  id : List Char
  name : List Char
  flags : List Char
  value : List Char
  worst : List Char
  threshold : List Char
  whenFailed : List Char
  rawValue : List Char
  deriving DecidableEq, Repr

/-! ### Column classes -/

/-- The letters of the flags and the dash; the long s and the Kelvin sign are letters s and k here. -/
def flagChars : List Char :=
  ['P', 'O', 'S', 'R', 'C', 'K', 'p', 'o', 's', 'r', 'c', 'k', '-', '\u017F', '\u212A']

/-- A number in the digits of any script. -/
def isNumber (token : List Char) : Bool := token.all isDecimal

/-- Flag letters, at least one, with at most one plus sign after them. -/
def isFlags (token : List Char) : Bool :=
  let letters := if token.getLast? = some '+' then token.dropLast else token
  letters ≠ [] && letters.all flagChars.contains

/-- What the table shows for a threshold that does not exist. -/
def noThreshold : List Char := ['-', '-', '-']

def isThreshold (token : List Char) : Bool := isNumber token || token = noThreshold

/-! ### Reading -/

/-- The columns of a line. -/
def Columns.read? (line : List Char) : Option Columns := do
  let (id, s) ← column? isNumber (trimStart line)
  let (name, s) ← column? (fun _ => true) s
  let (flags, s) ← column? isFlags s
  let (value, s) ← column? isNumber s
  let (worst, s) ← column? isNumber s
  let (threshold, s) ← column? isThreshold s
  let (whenFailed, s) ← token? s
  let rawValue ← lastColumn? s
  some { id, name, flags, value, worst, threshold, whenFailed, rawValue }

/-- The attribute of a row, judged by its columns. -/
def ofColumns? (c : Columns) : Option Attribute := do
  let id ← Numeral.read? Numeral.max32 c.id
  let value ← Numeral.read? Numeral.max32 c.value
  let worst ← Numeral.read? Numeral.max32 c.worst
  let threshold ← if c.threshold = noThreshold then some 0 else Numeral.read? Numeral.max32 c.threshold
  let row : Attribute :=
    { id, value, worst, threshold
      name := String.ofList c.name
      flags := String.ofList c.flags
      whenFailed := String.ofList c.whenFailed
      rawValue := String.ofList c.rawValue
      description := describe id
      isPrefailure := c.flags.any fun f => f = 'P' || f = 'p'
      verdict := .good }
  some { row with verdict := row.assess }

/-- The attribute on a line. -/
def ofLine? (line : String) : Option Attribute := Columns.read? line.toList >>= ofColumns?

/-- The rows among the lines, in their order; an attribute that stands twice is kept twice. -/
def table (lines : List String) : List Attribute := lines.filterMap ofLine?

end DriveHealth.Attribute
