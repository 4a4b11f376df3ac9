/-
# Attributes and verdicts

A verdict is what can be said of an attribute or of a whole drive. It has a label, points at a failing
drive or not, and gives the exit status of a health check.

An attribute is one row of a drive's attribute table. The first rule that applies decides its verdict:
an attribute that foretells no failure is good unless it counts uncorrectable errors, and the others
are compared with their threshold, which says nothing when it is 0 or above 253.

Key definitions: `Verdict`, `Verdict.isFailure`, `Verdict.exitStatus`, `Attribute`,
`Attribute.rawNumber`, `Attribute.judge`, `Attribute.assess`.
-/
import DriveHealth.Numeral

namespace DriveHealth

/-! ### Verdicts -/

inductive Verdict
  | good
  | badAttributeNow
  | badAttributeInThePast
  | badSector
  /-- Said of whole drives only. -/
  | badSectorMany
  | badStatus
  deriving DecidableEq, Repr, Inhabited

namespace Verdict

def all : List Verdict :=
  [good, badAttributeNow, badAttributeInThePast, badSector, badSectorMany, badStatus]

def label : Verdict → String
  | good => "GOOD"
  | badAttributeNow => "BAD_ATTRIBUTE_NOW"
  | badAttributeInThePast => "BAD_ATTRIBUTE_IN_THE_PAST"
  | badSector => "BAD_SECTOR"
  | badSectorMany => "BAD_SECTOR_MANY"
  | badStatus => "BAD_STATUS"

def ofLabel? (label : String) : Option Verdict := all.find? fun v => v.label = label

/-- A verdict is found again by its label. -/
theorem ofLabel?_label (v : Verdict) : ofLabel? v.label = some v := by cases v <;> decide

/-- The drive is failing or has failed. -/
def isFailure : Verdict → Bool
  | badAttributeNow | badSector | badSectorMany => true
  | good | badAttributeInThePast | badStatus => false

/-- Of a health check: 0 for a good drive, 2 for a failing one, 1 for a warning. -/
def exitStatus (v : Verdict) : Nat := if v.isFailure then 2 else if v = good then 0 else 1

end Verdict

/-! ### Rows -/

structure Attribute where
  id : Nat
  name : String
  flags : String
  value : Nat
  worst : Nat
  /-- Zero when the table shows dashes. -/
  threshold : Nat
  whenFailed : String
  rawValue : String
  description : String
  /-- The attribute foretells a failure; the others only count use. -/
  isPrefailure : Bool
  verdict : Verdict
  deriving DecidableEq, Repr

namespace Attribute

/-- The integer at the start of the raw value, zero when there is none. -/
def rawNumber (a : Attribute) : Int := (Numeral.leadingInt a.rawValue.toList).getD 0

/-- Sectors replaced by spare ones. -/
def reallocatedSectors : Nat := 5

/-- Errors that could not be corrected. -/
def reportedUncorrectable : Nat := 187

/-- Sectors that wait for replacement. -/
def pendingSectors : Nat := 197

/-- The verdict on the columns of a row, of which `raw` is the raw number. -/
def judge (isPrefailure : Bool) (id value worst threshold : Nat) (raw : Int) : Verdict :=
  if !isPrefailure then
    if id = reportedUncorrectable ∧ 0 < raw then .badAttributeNow else .good
  else if threshold < 1 ∨ 253 < threshold then .badStatus
  else if value ≤ threshold then .badAttributeNow
  else if worst ≤ threshold then .badAttributeInThePast
  else if (id = reallocatedSectors ∨ id = pendingSectors) ∧ 1 ≤ raw then .badSector
  else .good

/-- The verdict on a row, whatever verdict it carries. -/
def assess (a : Attribute) : Verdict :=
  judge a.isPrefailure a.id a.value a.worst a.threshold a.rawNumber

end Attribute

end DriveHealth
