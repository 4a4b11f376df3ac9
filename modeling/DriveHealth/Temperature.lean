/-
# Temperature

A drive with an attribute table is asked for the first sane reading among the attributes that hold one.
A drive without a table prints its temperature on a line, which is taken as it stands.

Key definitions: `Temperature.ofAttributes`, `Temperature.ofLine?`, `Temperature.ofLines`,
`Temperature.resolve`.
-/
import DriveHealth.Attribute.Basic
import DriveHealth.Text.Characters

namespace DriveHealth.Temperature

open Text

/-- Attributes that hold a temperature, the most trusted first. -/
def attributeIds : List Nat := [190, 194, 231]

/-- Readings in degrees Celsius that a working sensor can give. -/
def isSane (reading : Int) : Bool := -15 ≤ reading && reading ≤ 100

/-- The first sane reading of attribute `id`. -/
def ofAttribute? (table : List Attribute) (id : Nat) : Option Int32 :=
  let readings := (table.filter fun a => a.id = id).filterMap fun a => Numeral.leadingInt a.rawValue.toList
  (readings.find? isSane).map Int32.ofInt

/-- The first sane reading of the most trusted attribute that has one. -/
def ofAttributes (table : List Attribute) : Option Int32 :=
  attributeIds.findSome? (ofAttribute? table)

/-- What a temperature line starts with. -/
def lineLabels : List String :=
  ["Current Drive Temperature:", "Current Temperature:", "Temperature:"]

/-- The unit after the number, a whole word. -/
def startsWithUnit (s : List Char) : Bool :=
  ["C", "Celsius"].any fun unit => (unit.toList.isPrefixOf? s).any atWordEnd

/-- The sign and the digits on a temperature line; true stands for the minus. -/
def numeral? (line : List Char) : Option (Bool × List Char) := do
  let s ← lineLabels.findSome? fun l => l.toList.isPrefixOf? (trimStart line)
  let s := trimStart s
  let (negative, s) := match s with
    | '-' :: rest => (true, rest)
    | _ => (false, s)
  let (digits, s) ← Numeral.digitRun? s
  let s ← afterGap? s
  if startsWithUnit s then some (negative, digits) else none

/-- The temperature on a line; its number has ASCII digits and fits 32 bits with its sign. -/
def ofLine? (line : String) : Option Int32 := do
  let (negative, digits) ← numeral? line.toList
  let n ← Numeral.read? (if negative then 0x80000000 else 0x7FFFFFFF) digits
  some (Int32.ofInt (if negative then -(n : Int) else n))

/-- The first temperature among the lines. -/
def ofLines (lines : List String) : Option Int32 := lines.findSome? ofLine?

/-- The lines are looked at only when there is no table. -/
def resolve (table : List Attribute) (lines : List String) : Option Int32 :=
  if table.isEmpty then ofLines lines else ofAttributes table

end DriveHealth.Temperature
