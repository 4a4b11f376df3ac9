/-
# Configuration

Which program is smartctl, which power state leaves a drive alone, how much is logged, and the type
hints of devices. What a configuration file does not say keeps its default; what it says beside that
is passed over; a value of the wrong type spoils the file. A group of settings may also be given as an
array, in which they stand in their fixed order. A date counts as a group of one entry, which is no
setting but may be a type hint.

Key definitions: `Config`, `Config.parse?`, `Config.typeHint?`, `Config.defaultFile`.
-/
import DriveHealth.Toml.Document

namespace DriveHealth

structure Config where
  program : String := "smartctl"
  nocheck : Option String := none
  logLevel : String := "info"
  /-- Type hints by device path. -/
  typeHints : List (String × String) := []
  deriving DecidableEq, Repr

namespace Config

open Toml

/-- The node of a setting: that under its name, or that in its place when the group is an array. -/
def setting? (group : Node) (name : String) (place : Nat) : Option Node :=
  match group with
  | .list items | .tables items => items[place]?
  | group => group.entries?.bind fun entries => entries.lookup name

/-- The node is a group of settings. -/
def isGroup : Node → Bool
  | .table _ _ | .list _ | .tables _ | .moment _ => true
  | .text _ | .scalar => false

def text? : Node → Option String
  | .text s => some s
  | _ => none

/-- The text of a setting, or the default when it is not given. -/
def readText (default : String) : Option Node → Option String
  | none => some default
  | some node => text? node

/-- The entries of a table of texts. -/
def readHints : Option Node → Option (List (String × String))
  | none => some []
  | some node => do
    let entries ← node.entries?
    entries.mapM fun (path, node) => (text? node).map fun hint => (path, hint)

/-- A group that is not given is an empty one. -/
def group? (entries : Entries) (name : String) : Option Node :=
  let node := (entries.lookup name).getD (.table .header [])
  if isGroup node then some node else none

/-- The configuration in a file's text. -/
def parse? (text : String) : Option Config := do
  let entries ← Toml.parse? text
  let general ← group? entries "general"
  let devices ← group? entries "devices"
  let program ← readText "smartctl" (setting? general "smartctl_path" 0)
  let nocheck ← match setting? general "nocheck" 1 with
    | none => some none
    | some node => (text? node).map some
  let logLevel ← readText "info" (setting? general "log_level" 2)
  let typeHints ← readHints (setting? devices "type_hints" 0)
  some { program, nocheck, logLevel, typeHints }

/-- The hint for exactly this device path. -/
def typeHint? (c : Config) (path : String) : Option String := c.typeHints.lookup path

/-- What is logged: the given level of the program's own messages and the warnings of others. -/
def logFilter (level : String) : String := "warn,smartdiag=" ++ level

/-- The configuration file that is written when there is none. -/
def defaultFile : String :=
  "# smartdiag configuration\n# Generated on first run, edit freely\n\n[general]\n"
    ++ "smartctl_path = \"smartctl\"\nlog_level = \"info\"\n\n[devices.type_hints]\n"

end Config

end DriveHealth
