/-
# Jobs

A job is one call of the program from its arguments to its exit. The configuration comes from the file
that an option names, where a file that cannot be read is an error, or else from the user's file, where
defaults take its place and are written when there is no file.

Key definitions: `Place`, `Job.loadConfig`, `Job.monitor`, `Job.run`.
-/
import DriveHealth.CommandLine.Mode
import DriveHealth.Config

namespace DriveHealth

/-- What a job finds where it runs. -/
structure Place where
  /-- The text of a file, or why it cannot be read. -/
  textOf : String → Except String String
  /-- Where the user's configuration is kept. -/
  configPath : Option String
  /-- The text of the user's configuration. -/
  userConfig : Option String
  /-- The size of the device at a path. -/
  sizeOf : String → UInt64
  /-- The time on the report page. -/
  pageStamp : String
  /-- The time in JSON. -/
  jsonStamp : String

/-- How a job ends. -/
structure Finish where
  exitStatus : Nat
  output : String
  /-- What is printed of a failure. -/
  failure : Option String
  /-- The calls made. -/
  calls : List Call
  /-- What is written as the user's configuration. -/
  written : Option String
  deriving DecidableEq, Repr

namespace Job

/-! ### Failures -/

/-- A text whose lines after the first are indented. -/
def indented (indent s : String) : String :=
  String.ofList (s.toList.flatMap fun c => if c = '\n' then '\n' :: indent.toList else [c])

/-- The causes behind a failure, numbered when there are several. -/
def causeLines : List String → List String
  | [] => []
  | [cause] => ["    " ++ indented "    " cause]
  | causes =>
    causes.zipIdx.map fun (cause, i) => Text.padLeft 5 (toString i) ++ ": " ++ indented "       " cause

/-- A failure and the causes behind it, the nearest first. -/
def failureText (message : String) (causes : List String) : String :=
  let head := "Error: " ++ message
  if causes.isEmpty then head else head ++ "\n\nCaused by:\n" ++ Text.joinLines (causeLines causes)

/-- The text for a list of messages, each caused by the next. -/
def chainText : List String → String
  | [] => failureText "" []
  | message :: causes => failureText message causes

/-! ### Configuration -/

/-- The configuration of a file that is not TOML, or not of the right shape, is refused by name. -/
def parseFile (path text : String) : Except (List String) Config :=
  match Config.parse? text with
  | some config => .ok config
  | none => .error ["parsing " ++ path]

/-- The configuration for a job. -/
def loadConfig (place : Place) (o : Options) : Except (List String) Config :=
  match o.configFile with
  | some path =>
    match place.textOf path with
    | .error cause => .error ["reading " ++ path, cause]
    | .ok text => parseFile path text
  | none => .ok ((place.userConfig.bind Config.parse?).getD {})

/-- The configuration that a job leaves behind: the defaults, when no file is named and there is none. -/
def configToWrite (place : Place) (o : Options) : Option String :=
  if o.configFile.isNone && place.configPath.isSome && place.userConfig.isNone then
    some Config.defaultFile
  else none

/-- The lines that show a configuration. -/
def configLines (path : String) (c : Config) : List String :=
  ["Config: " ++ path, "", "[general]", "  smartctl_path = " ++ c.program,
    "  nocheck       = " ++ c.nocheck.getD "(not set)", "  log_level     = " ++ c.logLevel, "",
    "[devices]"]
    ++ if c.typeHints.isEmpty then ["  type_hints = (none)"]
      else (c.typeHints.mergeSort fun a b => a.1 ≤ b.1).map fun (path, hint) =>
        "  type_hint: " ++ path ++ " → -d " ++ hint

/-- The path that is shown for the configuration. -/
def shownPath (place : Place) (o : Options) : String :=
  (o.configFile.or place.configPath).getD "(unknown)"

/-! ### Running -/

/-- The monitor for a device; options win over the configuration. -/
def monitor (place : Place) (o : Options) (c : Config) (path : String) : Monitor where
  device :=
    { path
      typeHint := o.deviceType.or (c.typeHint? path)
      size := o.size.getD (place.sizeOf path) }
  program := c.program
  nocheck := o.nocheck.or c.nocheck

/-- The help page. -/
def helpText : String :=
  Report.printed
    ["smartctl-based disk health assessment", "", "Usage: smartdiag [OPTIONS] [DEVICE]", "",
      "Arguments:", "  [DEVICE]  Device to inspect, e.g. /dev/sda", "", "Options:",
      "      --size <SIZE>                Device size in bytes for the bad-sector threshold (default: "
        ++ "read from sysfs)",
      "  -d, --device-type <DEVICE_TYPE>  smartctl device type hint (-d), e.g. sat, nvme, megaraid,0",
      "  -n, --nocheck <NOCHECK>          smartctl power-state policy (-n): never, sleep, standby, idle",
      "      --json                       Print a JSON snapshot of everything known about the device "
        ++ "and exit",
      "      --attributes                 Print the attribute table with per-attribute verdicts",
      "      --selftest                   Print the self-test log",
      "      --info                       Print the information section",
      "      --temperature                Print the drive temperature",
      "      --power-mode                 Print the current power mode",
      "      --extended                   Print the raw extended (-x) smartctl output",
      "      --check                      One-shot health check: exit 0=GOOD, 1=WARNING, 2=FAILING "
        ++ "(nagios/cron compatible)",
      "      --config                     Print config file path and current values, then exit",
      "      --config-file <PATH>         Read configuration from this file instead of the default "
        ++ "location",
      "  -h, --help                       Print help",
      "  -V, --version                    Print version"]

/-- A job that ends before it has a configuration. -/
def stopped : Stop → Finish
  | .help => ⟨0, helpText, none, [], none⟩
  | .version => ⟨0, "smartdiag " ++ version ++ "\n", none, [], none⟩
  | .mistake => ⟨2, "", none, [], none⟩

variable {σ : Type} (runner : Runner σ)

/-- Asks what the mode prints in a new session with the device. -/
def inspect (place : Place) (memory : σ) (mode : Mode) (m : Monitor) (written : Option String) : Finish :=
  let stamp := if mode = .json then place.jsonStamp else place.pageStamp
  match mode.answer runner m stamp ⟨.empty, memory, [], []⟩ with
  | (.ok printout, s) => ⟨printout.exitStatus, printout.text, none, s.calls, written⟩
  | (.error e, s) =>
    ⟨1, "", some (chainText (mode.context m ++ e.message :: e.cause?.toList)), s.calls, written⟩

/-- Does what the arguments ask for. -/
def run (place : Place) (memory : σ) (args : List String) : Finish :=
  match Options.parse args with
  | .error stop => stopped stop
  | .ok o =>
    match loadConfig place o with
    | .error messages => ⟨1, "", some (chainText messages), [], none⟩
    | .ok config =>
      let written := configToWrite place o
      if o.flags.contains .config then
        ⟨0, Report.printed (configLines (shownPath place o) config), none, [], written⟩
      else
        match o.device with
        | none => ⟨1, "", some (chainText ["no device given"]), [], written⟩
        | some path => inspect runner place memory o.mode (monitor place o config path) written

end Job

end DriveHealth
