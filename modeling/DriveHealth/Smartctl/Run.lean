/-
# Calls of smartctl and how they end

All that is known of a drive comes from the text that smartctl prints. There are two kinds of output,
and the larger one holds all that the other does.

A run that ended has an exit status and the lines it printed. Bits 0 and 1 of the status tell that the
command line was refused or the device not opened; then the lines say nothing of the drive. The other
bits are findings on the drive and leave the lines good.

Key definitions: `OutputKind`, `OutputKind.covers`, `Call`, `Call.text`, `Call.arguments`, `Run`,
`isFatal`, `Failure`, `Failure.message`, `Runner`, `Runner.play`.
-/
import DriveHealth.Text.Layout

namespace DriveHealth

/-! ### Calls -/

inductive OutputKind
  /-- Attributes, information, health and the self-test log. -/
  | default
  /-- All that smartctl can tell. -/
  | all
  deriving DecidableEq, Repr

/-- Output of kind `held` answers a request for kind `wanted`. -/
def OutputKind.covers (held wanted : OutputKind) : Bool := held = wanted || held = .all

/-- A program and its arguments. -/
structure Call where
  program : String
  args : List String
  deriving DecidableEq, Repr

namespace Call

/-- Program and arguments with a space between neighbours, as messages show a call. -/
def text (c : Call) : String := " ".intercalate (c.program :: c.args)

/-- The arguments that ask for a kind of output. -/
def kindArgs : OutputKind → List String
  | .all => ["-x"]
  | .default => ["-A", "-f", "brief", "-i", "-H", "-l", "selftest"]

/-- An option with its value, nothing without a value. -/
def optionArgs (flag : String) : Option String → List String
  | none => []
  | some value => [flag, value]

/-- The arguments for a kind of output of the device at `path`, which come last; `nocheck` is the power
state in which a drive is left alone and `typeHint` the device type. -/
def arguments (kind : OutputKind) (nocheck typeHint : Option String) (path : String) : List String :=
  kindArgs kind ++ optionArgs "-n" nocheck ++ optionArgs "-d" typeHint ++ [path]

end Call

/-! ### Runs -/

/-- A finished run. -/
structure Run where
  status : UInt8
  /-- The lines of the standard output, then those of the standard error. -/
  lines : List String
  deriving DecidableEq, Repr

/-- The exit status makes the output worthless. -/
def isFatal (status : UInt8) : Bool := status &&& 3 ≠ 0

/-- Why a call gave no output that can be used. -/
inductive Failure
  /-- The run ended with a fatal status. -/
  | fatalStatus (command : String) (output : List String) (status : UInt8)
  /-- The program did not start. -/
  | notStarted (command : String) (cause : String)
  /-- The program was killed and left no status. -/
  | killed (command : String)
  deriving DecidableEq, Repr

namespace Failure

/-- A status as two hexadecimal digits. -/
def hexStatus (status : UInt8) : String :=
  let n := status.toNat
  String.ofList ['0', 'x', Nat.digitChar (n / 16), Nat.digitChar (n % 16)]

def message : Failure → String
  | fatalStatus command _ status => "'" ++ command ++ "' failed with exit status " ++ hexStatus status
  | notStarted command cause => "failed to start '" ++ command ++ "': " ++ cause
  | killed command => "'" ++ command ++ "' terminated without an exit status"

/-- What the run printed; nothing is kept of one that did not end. -/
def output : Failure → List String
  | fatalStatus _ output _ => output
  | notStarted _ _ | killed _ => []

/-- The failure behind this one. -/
def cause? : Failure → Option String
  | notStarted _ cause => some cause
  | fatalStatus _ _ _ | killed _ => none

end Failure

/-- Carries out calls; `σ` is what it remembers between them. -/
abbrev Runner (σ : Type) := Call → σ → Except Failure Run × σ

/-- What becomes of one call. -/
inductive Outcome
  | notStarted (cause : String)
  | killed
  | ended (run : Run)
  deriving DecidableEq, Repr

/-- An outcome as the answer to a call. -/
def Outcome.answer (call : Call) : Outcome → Except Failure Run
  | notStarted cause => .error (.notStarted call.text cause)
  | killed => .error (.killed call.text)
  | ended run => .ok run

/-- Plays a list of outcomes, of which the last is repeated; without any, runs print nothing. -/
def Runner.play : Runner (List Outcome)
  | call, [] => (Outcome.answer call (.ended ⟨0, []⟩), [])
  | call, [last] => (last.answer call, [last])
  | call, next :: later => (next.answer call, later)

/-- The lines of a text as they are kept of a run. -/
def Run.linesOf (text : List Char) : List String := (Text.lines text).map String.ofList

end DriveHealth
