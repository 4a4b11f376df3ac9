/-
# The program

Gathers what a job finds where it runs, has the job done, and hands out what it prints. No other program
is started: the text of smartctl is read from standard input and its exit status from the environment,
so that the call stands in front of a pipe.

Key definitions: `main`.
-/
import DriveHealth.CommandLine.Job
import DriveHealth.Smartctl.Host

namespace DriveHealth

/-- The text of a file, or why it cannot be read. -/
def readText (path : String) : IO (Except String String) := do
  try
    return .ok (← IO.FS.readFile path)
  catch e =>
    return .error <|
      match e with
      | .noFileOrDirectory _ _ _ => PathError.missing.message
      | .inappropriateType _ 20 _ => PathError.notDirectory.message
      | .inappropriateType _ _ _ => PathError.isDirectory.message
      | .invalidArgument _ 36 _ => PathError.nameTooLong.message
      | e => toString e

/-- The directory of the user's configuration. -/
def configDirectory : IO (Option String) := do
  match ← IO.getEnv "XDG_CONFIG_HOME" with
  | some directory => return some (directory ++ "/smartdiag")
  | none => return (← IO.getEnv "HOME").map fun home => home ++ "/.config/smartdiag"

/-- The size that the system gives for a device, zero when it gives none. -/
def systemSize (path : String) : IO UInt64 := do
  let real ← try some <$> IO.FS.realPath path catch _ => pure none
  let name := Device.lastPart ((real.map fun p => p.toString).getD path)
  match ← readText ("/sys/class/block/" ++ name ++ "/size") with
  | .ok text => return Device.sizeOfSectors text
  | .error _ => return 0

/-- All bytes that a stream still holds. -/
partial def readAll (input : IO.FS.Stream) (bytes : ByteArray) : IO ByteArray := do
  let more ← input.read 4096
  if more.isEmpty then return bytes else readAll input (bytes ++ more)

/-- The host on which every program prints what stands on standard input. -/
def pipeHost (programs : List String) : IO Host := do
  let bytes ← readAll (← IO.getStdin) .empty
  let status := ((← IO.getEnv "SMARTCTL_STATUS").bind String.toNat?).getD 0
  let program : Program := ⟨bytes.toList, [], some (UInt8.ofNat status)⟩
  return ⟨programs.map fun name => (name, program), ⟨[]⟩, []⟩

/-- What the job with these options finds. -/
def placeFor (o : Options) : IO Place := do
  let directory ← configDirectory
  let configPath := directory.map fun d => d ++ "/smartdiag.toml"
  let userConfig ← match configPath with
    | none => pure none
    | some path => pure (← readText path).toOption
  let named ← readText (o.configFile.getD "")
  let size ← systemSize (o.device.getD "")
  let stamp := (← IO.getEnv "REPORT_TIME").getD "-"
  return ⟨fun _ => named, configPath, userConfig, fun _ => size, stamp, stamp⟩

/-- Writes the user's configuration if there is something to write. -/
def writeConfig (written : Option String) : IO Unit := do
  match ← configDirectory, written with
  | some directory, some text =>
    try
      IO.FS.createDirAll directory
      IO.FS.writeFile (directory ++ "/smartdiag.toml") text
    catch _ => pure ()
  | _, _ => pure ()

/-- Has the job of the arguments done and gives its exit status. -/
def runJob (args : List String) : IO UInt32 := do
  let options := (Options.parse args).toOption.getD {}
  let place ← placeFor options
  let program := (Job.loadConfig place options).toOption.map Config.program
  let host ← if options.device.isNone || options.flags.contains .config then pure ⟨[], ⟨[]⟩, []⟩
    else pipeHost program.toList
  let finish := Job.run host.runner place () args
  writeConfig finish.written
  IO.print finish.output
  if let some failure := finish.failure then IO.eprintln failure
  return UInt32.ofNat finish.exitStatus

end DriveHealth

def main (args : List String) : IO UInt32 := DriveHealth.runJob args
