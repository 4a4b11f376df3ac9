/-
# Programs on a host

A host knows some programs by name, each with what it writes and how it ends. A call of anything else
does not start: a name with a slash in it is the path of a file, and the host's files are not programs.
Neither does a call with a NUL in it or with an argument that is too long.

Key definitions: `Program`, `Program.lines`, `Program.run?`, `Host`, `Host.refusal`, `Host.outcome`, `Host.runner`,
`Host.started`.
-/
import DriveHealth.FileTree
import DriveHealth.Smartctl.Run
import DriveHealth.Text.Utf8

namespace DriveHealth

/-- What a program does when it is started. -/
structure Program where
  output : List UInt8
  errorOutput : List UInt8
  /-- The exit status, none when the program is killed. -/
  status : Option UInt8

/-- The lines of the output, then those of the error output. -/
def Program.lines (p : Program) : List String :=
  Run.linesOf (Text.decode p.output) ++ Run.linesOf (Text.decode p.errorOutput)

/-- The finished run, none when the program is killed. -/
def Program.run? (p : Program) : Option Run := p.status.map fun status => ⟨status, p.lines⟩

structure Host where
  programs : List (String × Program)
  files : FileTree
  /-- The working directory. -/
  here : List String

namespace Host

/-- A NUL stands in the program's name or in an argument. -/
def hasNul (c : Call) : Bool := (c.program :: c.args).any fun s => s.toList.contains '\x00'

/-- The bytes that an argument may have. -/
def maxArgumentSize : Nat := 131071

/-- The host can pass the program's name and the arguments on. -/
def isPassable (c : Call) : Bool :=
  !hasNul c && c.args.all fun s => s.utf8ByteSize ≤ maxArgumentSize

/-- The program that a call starts. -/
def find? (h : Host) (c : Call) : Option Program :=
  if isPassable c then h.programs.lookup c.program else none

/-- What is said of a file that may not be started. -/
def denied : String := "Permission denied (os error 13)"

/-- Why a call does not start a program. The two names of dots stand for directories. -/
def refusal (h : Host) (c : Call) : String :=
  if hasNul c then "nul byte found in provided data"
  else if (h.programs.lookup c.program).isSome then "Argument list too long (os error 7)"
  else if c.program.toList.contains '/' then
    match h.files.find h.here c.program with
    | .ok _ => denied
    | .error e => e.message
  else if c.program = "." ∨ c.program = ".." then denied
  else if FileTree.maxNameSize < c.program.utf8ByteSize then PathError.nameTooLong.message
  else PathError.missing.message

/-- What becomes of a call. -/
def outcome (h : Host) (c : Call) : Outcome :=
  match h.find? c with
  | some p => (p.run?.map .ended).getD .killed
  | none => .notStarted (h.refusal c)

/-- Carries out calls on the host. -/
def runner (h : Host) : Runner Unit := fun c _ => ((h.outcome c).answer c, ())

/-- Those of the calls that start a program. -/
def started (h : Host) (calls : List Call) : List Call := calls.filter fun c => (h.find? c).isSome

end Host

end DriveHealth
