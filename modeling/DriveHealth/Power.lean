/-
# Power counters and power mode

The counters come from an attribute, else from the information section, else they are unknown. The
mode comes from the information section, else from the message about a sleeping drive that ends an
output.

Key definitions: `PowerCounters`, `Power.counters`, `Power.mode`, `Power.standbyMode?`.
-/
import DriveHealth.Attribute.Basic
import DriveHealth.Information.Section
import DriveHealth.Text.Lower

namespace DriveHealth

structure PowerCounters where
  cycles : Int
  hours : Int
  deriving DecidableEq, Repr

namespace Power

open Text

/-- Stands for a counter that no source gives. -/
def unknownCounter : Int := -1

/-- The first attribute `id`, if its raw value is a number, else the entry under `key`. -/
def counter (table : List Attribute) (id : Nat) (info : Information) (key : String) : Int :=
  let fromTable := (table.find? fun a => a.id = id).bind fun a => Numeral.leadingInt a.rawValue.toList
  let fromInfo := (info.get? key).bind fun v => Numeral.leadingInt v.toList
  (fromTable.or fromInfo).getD unknownCounter

def counters (table : List Attribute) (info : Information) : PowerCounters where
  cycles := counter table 12 info "powercycles"
  hours := counter table 9 info "poweronhours"

/-- The answer when the output names no mode. -/
def unknownMode : String := "UNKNOWN"

/-- The answer when there is no output. -/
def errorMode : String := "ERROR"

/-- The mode in a message `Device is in MODE mode, exit(N)` at the start of the text. -/
def modeHere? (s : List Char) : Option (List Char) := do
  let s ← foldPrefix? "Device is in ".toList s
  let mode := s.takeWhile fun c => !isBlank c
  let s ← foldPrefix? " mode, exit(".toList (s.dropWhile fun c => !isBlank c)
  let (_, s) ← Numeral.digitRun? s
  if mode ≠ [] ∧ s.head? = some ')' then some mode else none

/-- The mode in the leftmost such message of a line. -/
def standbyMode? : List Char → Option (List Char)
  | [] => none
  | c :: s => (modeHere? (c :: s)).or (standbyMode? s)

/-- The last line that is not blank. -/
def lastLine? (lines : List String) : Option String :=
  lines.reverse.find? fun l => !isBlankText l.toList

def mode (info : Information) (lines : List String) : String :=
  match info.get? "powermodeis" with
  | some mode => mode
  | none =>
    match (lastLine? lines).bind fun l => standbyMode? l.toList with
    | some mode => String.ofList mode
    | none => unknownMode

end Power

end DriveHealth
