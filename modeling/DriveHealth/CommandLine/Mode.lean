/-
# Modes

What one call of the program prints about a drive. Of several modes that are asked for, the first in a
fixed order is taken; without any, the report page is printed.

Key definitions: `Mode`, `Options.mode`, `Mode.answer`, `Mode.context`.
-/
import DriveHealth.CommandLine.Options
import DriveHealth.Report.Encoding
import DriveHealth.Report.Page

namespace DriveHealth

inductive Mode
  | json
  | check
  | attributes
  | selfTests
  | information
  | temperature
  | powerMode
  | extended
  | page
  deriving DecidableEq, Repr

/-- The flags that choose a mode, the strongest one first. -/
def Flag.modes : List (Flag × Mode) :=
  [(.json, .json), (.check, .check), (.attributes, .attributes), (.selfTests, .selfTests),
    (.information, .information), (.temperature, .temperature), (.powerMode, .powerMode),
    (.extended, .extended)]

def Options.mode (o : Options) : Mode :=
  ((Flag.modes.find? fun p => o.flags.contains p.1).map Prod.snd).getD .page

/-- The version of this program. -/
def version : String := "0.1.0"

/-- What is printed, and the exit status. -/
structure Printout where
  text : String
  exitStatus : Nat
  deriving DecidableEq, Repr

namespace Printout

/-- One line and success. -/
def line (s : String) : Printout := ⟨s ++ "\n", 0⟩

end Printout

namespace Report

/-- A snapshot in JSON with the time it was taken at, the keys in order. -/
def dump (s : Snapshot) (stamp : String) : String :=
  (Json.object
    [("smartdiag_version", .text version), ("timestamp", .text stamp),
      ("device", s.toJson)]).sortKeys.pretty

/-- The attribute table with flags and verdicts. -/
def attributeTable (table : List Attribute) : String :=
  printed
    (if table.isEmpty then ["No SMART attribute table."] else attributeHeader :: table.map attributeRow)

def selfTestTable (log : List SelfTest) : String :=
  printed (if log.isEmpty then ["No self-tests logged."] else log.map selfTestRow)

/-- The entries of the information; the column of keys is as wide as the longest key has bytes. -/
def informationTable (info : Information) : String :=
  let width := (info.entries.map fun e => e.1.utf8ByteSize).foldl max 0
  printed (info.entries.map fun (key, value) => Text.padRight width key ++ "  " ++ value)

/-- The drive and its verdict. -/
def checkLine (m : Monitor) (v : Verdict) : Printout :=
  ⟨m.device.path ++ " " ++ v.label ++ "\n", v.exitStatus⟩

end Report

namespace Mode

variable {σ : Type} (runner : Runner σ) (m : Monitor) (stamp : String)

/-- Asks what a mode prints. -/
def answer : Mode → Query σ Printout
  | json => return .line (Report.dump (← Snapshot.collect runner m) stamp)
  | check => return Report.checkLine m (← m.overallStatus runner)
  | attributes => return ⟨Report.attributeTable (← m.attributes runner), 0⟩
  | selfTests => return ⟨Report.selfTestTable (← m.selfTests runner), 0⟩
  | information => return ⟨Report.informationTable (← m.information runner), 0⟩
  | temperature => return .line (Report.temperatureCell (← m.temperature runner))
  | powerMode => return .line (← m.powerMode runner)
  | extended => return .line (← m.extendedText runner)
  | page => return ⟨Report.page (← Snapshot.collect runner m) stamp, 0⟩

/-- What a mode says of a failure before the failure itself. -/
def context : Mode → List String
  | check => ["reading SMART data for " ++ m.device.path]
  | _ => []

end Mode

end DriveHealth
