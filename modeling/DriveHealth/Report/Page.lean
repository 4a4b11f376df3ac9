/-
# The report page

A snapshot as text for people: a summary, the attribute table if there is one, the self-test log. The
rows of the two tables are made of cells of a fixed width.

Key definitions: `Report.temperatureCell`, `Report.counterCell`, `Report.attributeHeader`,
`Report.attributeRow`, `Report.selfTestRow`, `Report.model`, `Report.summary`, `Report.page`.
-/
import DriveHealth.ByteSize
import DriveHealth.Report.Encoding

namespace DriveHealth.Report

/-! ### Cells and rows -/

open Text

/-- Stands for a value that is not known. -/
def unknownCell : String := "—"

/-- Degrees Celsius. -/
def temperatureCell : Option Int32 → String
  | some t => toString t.toInt ++ "°C"
  | none => unknownCell

/-- A counter; a negative one is not known. -/
def counterCell (n : Int) : String := if n < 0 then unknownCell else toString n

/-- Values, worst values and thresholds of a row, its verdict and its raw value. -/
def valueCells (value worst threshold status raw : String) : String :=
  padLeft 5 value ++ " " ++ padLeft 5 worst ++ " " ++ padLeft 5 threshold ++ "  "
    ++ padRight 26 status ++ " " ++ raw

def attributeValues (a : Attribute) : String :=
  valueCells (toString a.value) (toString a.worst) (toString a.threshold) a.verdict.label a.rawValue

/-- Number and name at the start of a row. -/
def nameCells (id name : String) : String := padLeft 3 id ++ " " ++ padRight 26 name ++ " "

/-- The line above a table with flags. -/
def attributeHeader : String :=
  nameCells "ID" "Name" ++ padRight 7 "Flags" ++ " " ++ valueCells "Val" "Worst" "Thr" "Status" "Raw"

/-- A row of a table with flags. -/
def attributeRow (a : Attribute) : String :=
  nameCells (toString a.id) a.name ++ padRight 7 a.flags ++ " " ++ attributeValues a

/-- The line above a table without flags. -/
def briefHeader : String := nameCells "ID" "Name" ++ valueCells "Val" "Worst" "Thr" "Status" "Raw"

/-- A row of a table without flags. -/
def briefRow (a : Attribute) : String := nameCells (toString a.id) a.name ++ attributeValues a

def selfTestRow (t : SelfTest) : String :=
  "#" ++ padRight 3 (toString t.number) ++ " " ++ padRight 17 t.kind.label ++ " "
    ++ padRight 32 t.status ++ " " ++ padLeft 3 (toString t.remaining) ++ "%  "
    ++ padLeft 7 (toString t.hours) ++ " h  " ++ t.firstError

/-! ### The page -/

/-- Keys under which a drive names its model, the best one first. -/
def modelKeys : List String := ["devicemodel", "product", "modelfamily"]

/-- The first model entry that is not empty. -/
def model (info : Information) : String :=
  (modelKeys.findSome? fun key => (info.get? key).filter (· ≠ "")).getD "Unknown"

/-- An entry of the information, or the sign for a missing one. -/
def entryCell (info : Information) (key : String) : String := (info.get? key).getD unknownCell

def smartState (s : Snapshot) : String :=
  if !s.isSupported then "unsupported" else if s.isEnabled then "enabled" else "disabled"

/-- The lines at the head of the page. -/
def heading (device stamp : String) : List String :=
  ["═══════════════════════════════════════════════",
    "  smartdiag report: " ++ device ++ "  (" ++ stamp ++ ")",
    "═══════════════════════════════════════════════",
    ""]

def summary (s : Snapshot) : List String :=
  ["── Summary ────────────────────────────────────",
    "  Model:       " ++ model s.information,
    "  Serial:      " ++ entryCell s.information "serialnumber",
    "  Firmware:    " ++ entryCell s.information "firmwareversion",
    "  Capacity:    " ++ ByteSize.text s.size,
    "  SMART:       " ++ smartState s,
    "  Health:      " ++ s.verdict.label,
    "  Temperature: " ++ temperatureCell s.temperature,
    "  Power mode:  " ++ s.powerMode,
    "  Power on:    " ++ counterCell s.power.hours ++ " h  |  Cycles: " ++ counterCell s.power.cycles,
    ""]

/-- The attribute table, nothing when there is none. -/
def attributeSection (table : List Attribute) : List String :=
  if table.isEmpty then []
  else
    ["── Attributes (" ++ toString table.length ++ ") ─────────────────────────────",
      "  " ++ briefHeader,
      "  " ++ String.ofList (List.replicate 84 '─')]
      ++ table.map (fun a => "  " ++ briefRow a) ++ [""]

def selfTestSection (log : List SelfTest) : List String :=
  ("── Self-test Log (" ++ toString log.length ++ ") ──────────────────────────")
    :: (if log.isEmpty then ["  No self-tests logged"] else log.map fun t => "  " ++ selfTestRow t)

/-- Lines as text, a line feed after each. -/
def printed (lines : List String) : String := String.join (lines.map fun l => l ++ "\n")

/-- The page of a snapshot taken at the time that `stamp` shows. -/
def page (s : Snapshot) (stamp : String) : String :=
  printed
    (heading s.device stamp ++ summary s ++ attributeSection s.attributes ++ selfTestSection s.selfTests)

end DriveHealth.Report
