/-
# Steps, and several monitors on one runner

A step is a question as data, with the answers it can get. A bay holds monitors, each with the output it
keeps, that share a runner, and a step concerns one of them.

Key definitions: `Step`, `Answer`, `Step.run`, `Step.kind`, `Bay`, `Bay.step`, `Bay.runSteps`,
`StepRecord`.
-/
import DriveHealth.Report.Encoding

namespace DriveHealth

/-! ### Steps -/

inductive Step
  | fetch (kind : OutputKind)
  | fetchWith (kind : OutputKind) (nocheck typeHint : Option String)
  | refresh (kind : OutputKind)
  | attributes
  | firstAttribute (id : Nat)
  | information
  | selfTests
  | extendedText
  | temperature
  | temperatureOr (fallback : Int32)
  | powerCounters
  | powerMode
  | overallStatus
  | isSupported
  | isEnabled
  | collect
  deriving DecidableEq, Repr

inductive Answer
  | lines (lines : List String)
  | attributes (table : List Attribute)
  | attribute (row : Option Attribute)
  | information (info : Information)
  | selfTests (log : List SelfTest)
  | text (s : String)
  | reading (t : Option Int32)
  | temperature (t : Int32)
  | powerCounters (p : PowerCounters)
  | verdict (v : Verdict)
  | flag (b : Bool)
  | snapshot (s : Snapshot)
  deriving DecidableEq, Repr

namespace Step

/-- The kind of output a step asks for. -/
def kind : Step → OutputKind
  | fetch kind | fetchWith kind _ _ | refresh kind => kind
  | extendedText => .all
  | _ => .default

variable {σ : Type} (runner : Runner σ) (m : Monitor)

/-- Asks the step's question. -/
def run : Step → Query σ Answer
  | fetch kind => return .lines (← m.fetch runner kind)
  | fetchWith kind nocheck typeHint => return .lines (← m.fetchWith runner kind nocheck typeHint)
  | refresh kind => return .lines (← m.refresh runner kind)
  | attributes => return .attributes (← m.attributes runner)
  | firstAttribute id => return .attribute (← m.firstAttribute runner id)
  | information => return .information (← m.information runner)
  | selfTests => return .selfTests (← m.selfTests runner)
  | extendedText => return .text (← m.extendedText runner)
  | temperature => return .reading (← m.temperature runner)
  | temperatureOr fallback => return .temperature (← m.temperatureOr runner fallback)
  | powerCounters => return .powerCounters (← m.powerCounters runner)
  | powerMode => return .text (← m.powerMode runner)
  | overallStatus => return .verdict (← m.overallStatus runner)
  | isSupported => return .flag (← m.isSupported runner)
  | isEnabled => return .flag (← m.isEnabled runner)
  | collect => return .snapshot (← Snapshot.collect runner m)

end Step

/-! ### Bays -/

/-- A monitor and the output it keeps. -/
structure Slot where
  monitor : Monitor
  cache : Cache
  deriving DecidableEq, Repr

structure Bay (σ : Type) where
  slots : List Slot
  /-- What the runner remembers. -/
  memory : σ
  /-- The calls made with the number of the monitor that made them, the first one first. -/
  calls : List (Nat × Call)

/-- What one step led to. -/
structure StepRecord where
  answer : Except Failure Answer
  /-- The kind of output kept after the step. -/
  cached : Option OutputKind
  /-- How many calls the bay had made after the step. -/
  callCount : Nat
  events : List Event

namespace Bay

variable {σ : Type} (runner : Runner σ)

/-- A bay in which nothing was asked yet. -/
def start (monitors : List Monitor) (memory : σ) : Bay σ :=
  ⟨monitors.map fun m => ⟨m, .empty⟩, memory, []⟩

/-- A step of the monitor with number `i`, none when there is no such monitor. -/
def step (b : Bay σ) (i : Nat) (q : Step) : Option (StepRecord × Bay σ) :=
  match b.slots[i]? with
  | none => none
  | some slot =>
    let (answer, s) := q.run runner slot.monitor ⟨slot.cache, b.memory, [], []⟩
    let calls := b.calls ++ s.calls.map fun c => (i, c)
    some
      (⟨answer, s.cache.kind?, calls.length, s.events⟩,
        ⟨b.slots.set i { slot with cache := s.cache }, s.memory, calls⟩)

/-- The steps one after another, as far as their monitors exist. -/
def runSteps : Bay σ → List (Nat × Step) → List StepRecord × Bay σ
  | b, [] => ([], b)
  | b, (i, q) :: rest =>
    match b.step runner i q with
    | none => runSteps b rest
    | some (record, b) =>
      let (records, b) := runSteps b rest
      (record :: records, b)

end Bay

end DriveHealth
