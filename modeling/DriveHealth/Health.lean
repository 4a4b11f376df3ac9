/-
# Judging a drive

A drive with an attribute table is judged by it alone: first by the number of its bad sectors, then by
the first attribute that is flagged. A drive without one is judged by the line on which it prints the
outcome of its own assessment, where case does not count.

The bad sectors are the raw numbers of two attributes, added as a machine adds numbers of 64 bits. How
many a drive may have grows with the logarithm of its size: `1024 * ln (size / 512)`, rounded down. That
is computed in binary floating point, so nothing is proved of its value here but that it is positive
where it exists.

Key definitions: `Health.sectorAllowance`, `Health.hasHealthLine`, `Health.hasPassingLine`,
`Health.badSectors`, `Health.isFlagged`, `Health.evaluate`.
Key theorems: `Health.sectorAllowance_pos`, `Health.badSectors_eq_bmod`.
-/
import DriveHealth.Attribute.Basic
import DriveHealth.Text.Lower

namespace DriveHealth.Health

open Text

/-! ### Health lines -/

/-- What a line holds that says the drive is healthy. -/
def passingTexts : List String :=
  ["smart health status: ok", "smart overall-health self-assessment test result: passed"]

/-- What a line holds that gives any outcome. -/
def healthTexts : List String :=
  ["smart health status:", "smart overall-health self-assessment test result:"]

/-- The line in small letters holds one of the texts. -/
def holdsAny (texts : List String) (line : String) : Bool :=
  texts.any fun t => occursIn t.toList (lower line.toList)

/-- Some line gives an outcome, passing or not. -/
def hasHealthLine (lines : List String) : Bool := lines.any (holdsAny healthTexts)

/-- Some line says the drive is healthy. -/
def hasPassingLine (lines : List String) : Bool := lines.any (holdsAny passingTexts)

/-! ### Bad sectors -/

/-- The allowance of a drive of `size` bytes; a drive too small, or of unknown size, has none. -/
def sectorAllowance (size : UInt64) : Option Int :=
  let allowance := ((size.toFloat / 512).log * 1024).floor.toInt64.toInt
  if 0 < allowance then some allowance else none

theorem sectorAllowance_pos {size : UInt64} {n : Int} (h : sectorAllowance size = some n) : 0 < n := by
  simp only [sectorAllowance] at h
  split at h
  · cases h; assumption
  · cases h

/-- The raw number of the first row with this id, zero without such a row. -/
def rawOf (id : Nat) (table : List Attribute) : Int :=
  ((table.find? fun a => a.id = id).map Attribute.rawNumber).getD 0

/-- Reallocated and pending sectors together, added in 64 bits with a sign: a sum beyond them wraps around. -/
def badSectors (table : List Attribute) : Int :=
  (Int64.ofInt (rawOf Attribute.reallocatedSectors table) +
    Int64.ofInt (rawOf Attribute.pendingSectors table)).toInt

theorem badSectors_eq_bmod (table : List Attribute) :
    badSectors table = (rawOf 5 table + rawOf 197 table).bmod Int64.size := by
  rw [badSectors, ← Int64.ofInt_add, Int64.toInt_ofInt]
  rfl

/-- The allowance exists and is used up. -/
def tooManySectors (table : List Attribute) (size : UInt64) : Bool :=
  (sectorAllowance size).any (· ≤ badSectors table)

/-! ### The verdict -/

/-- A bad status of one attribute is inconclusive and flags nothing. -/
def isFlagged (v : Verdict) : Bool := v ≠ .good && v ≠ .badStatus

/-- The verdict on a drive of `size` bytes that printed `lines` with the rows `table` among them. -/
def evaluate (table : List Attribute) (lines : List String) (size : UInt64) : Verdict :=
  if table.isEmpty then (if hasPassingLine lines then .good else .badStatus)
  else if tooManySectors table size then .badSectorMany
  else
    match (table.map Attribute.verdict).find? isFlagged with
    | some v => v
    | none => if 0 < badSectors table then .badSector else .good

end DriveHealth.Health
