/-
# What can be asked of a drive

Each query reads the lines of an output and answers from them alone. The power mode is answered even
when there is no output, and the overall verdict warns first when the size of the device gives no
allowance of bad sectors.

Key definitions: `Monitor.attributes`, `Monitor.information`, `Monitor.selfTests`,
`Monitor.temperature`, `Monitor.powerCounters`, `Monitor.powerMode`, `Monitor.overallStatus`,
`Monitor.isSupported`, `Monitor.isEnabled`.
-/
import DriveHealth.Attribute.Row
import DriveHealth.Health
import DriveHealth.Information.Section
import DriveHealth.Monitor.Session
import DriveHealth.Power
import DriveHealth.SelfTest
import DriveHealth.Temperature

namespace DriveHealth

/-! ### Readings of the lines -/

namespace Reading

open Text

/-- What the entry on SMART support says in small letters, if there is one. -/
def support? (lines : List String) : Option (List Char) :=
  ((Information.ofLines lines).get? "smartsupportis").map fun v => lower v.toList

/-- The drive has SMART, as far as its support entry or else a health line tells. -/
def isSupported (lines : List String) : Bool :=
  match support? lines with
  | some support => !"unavailable".toList.isPrefixOf support
  | none => Health.hasHealthLine lines

/-- SMART is switched on, as far as its support entry or else a health line tells. -/
def isEnabled (lines : List String) : Bool :=
  match support? lines with
  | some support => "enabled".toList.isPrefixOf support
  | none => Health.hasHealthLine lines

def temperature (lines : List String) : Option Int32 :=
  Temperature.resolve (Attribute.table lines) lines

def powerCounters (lines : List String) : PowerCounters :=
  Power.counters (Attribute.table lines) (Information.ofLines lines)

def powerMode (lines : List String) : String := Power.mode (Information.ofLines lines) lines

def verdict (size : UInt64) (lines : List String) : Verdict :=
  Health.evaluate (Attribute.table lines) lines size

end Reading

/-! ### Queries -/

namespace Monitor

variable {σ : Type} (runner : Runner σ) (m : Monitor)

/-- Answers with a reading of the default output. -/
def read {α : Type} (reading : List String → α) : Query σ α := do
  let lines ← fetch runner m .default
  pure (reading lines)

def attributes : Query σ (List Attribute) := read runner m Attribute.table

/-- The first row with this id. -/
def firstAttribute (id : Nat) : Query σ (Option Attribute) := do
  let table ← attributes runner m
  pure (table.find? fun a => a.id = id)

def information : Query σ Information := read runner m Information.ofLines

def selfTests : Query σ (List SelfTest) := read runner m SelfTest.log

/-- The whole extended output as one text. -/
def extendedText : Query σ String := do
  let lines ← fetch runner m .all
  pure (Text.joinLines lines)

def temperature : Query σ (Option Int32) := read runner m Reading.temperature

def temperatureOr (fallback : Int32) : Query σ Int32 := do
  let reading ← temperature runner m
  pure (reading.getD fallback)

def powerCounters : Query σ PowerCounters := read runner m Reading.powerCounters

/-- Never fails: without output the mode is an error word, and the failure is logged. -/
def powerMode : Query σ String :=
  (read runner m Reading.powerMode).recover fun e => do
    Query.logEvent (.powerModeFailed m.device.path e.message)
    pure Power.errorMode

def overallStatus : Query σ Verdict := do
  if (Health.sectorAllowance m.device.size).isNone then
    Query.logEvent (.sizeUnknown m.device.path m.device.size)
  read runner m (Reading.verdict m.device.size)

def isSupported : Query σ Bool := read runner m Reading.isSupported

def isEnabled : Query σ Bool := read runner m Reading.isEnabled

end Monitor

end DriveHealth
