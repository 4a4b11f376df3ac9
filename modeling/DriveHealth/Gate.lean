/-
# One run per device at a time

Runs on one device would disturb each other, so whoever wants to run smartctl on a path enters through
a gate. The gate keeps one lock for each path, made when the path is first asked for. A caller looks its
lock up, waits for it, is inside while its body runs, and gives the lock back when the body ends, also
when the body panics.

A state holds all callers; a step moves one of them on. A schedule is a list of callers that are given
a turn, where a turn of a caller that cannot move changes nothing.

Key definitions: `Gate.lockName`, `Gate.State`, `Gate.step?`, `Gate.states`, `Gate.fairSchedule`,
`Gate.crowd`, `Gate.survey`.
-/

namespace DriveHealth.Gate

/-- The name of a path's lock. -/
def lockName (path : String) : String := "smartdiag.smartctl:" ++ path

/-- Where a caller stands; a lock is known by its place in the registry. -/
inductive Phase
  /-- Has not yet asked for its lock. -/
  | outside
  | waiting (lock : Nat)
  | inside (lock : Nat)
  | gone (panicked : Bool)
  deriving DecidableEq, Repr

structure Caller where
  path : String
  /-- The body ends with a panic. -/
  panics : Bool
  phase : Phase
  /-- How often the body was started. -/
  runs : Nat
  deriving DecidableEq, Repr

structure Lock where
  name : String
  /-- The number of the caller that holds the lock. -/
  holder : Option Nat
  deriving DecidableEq, Repr

structure State where
  /-- The registry, the oldest lock first. -/
  locks : List Lock
  callers : List Caller
  deriving DecidableEq, Repr

/-- Nobody has asked yet, and there is no lock; the flags tell whose bodies panic. -/
def start (callers : List (String × Bool)) : State :=
  ⟨[], callers.map fun (path, panics) => ⟨path, panics, .outside, 0⟩⟩

/-- The place of the lock with this name and the registry, in which the lock is made if need be. -/
def lookUp (name : String) (locks : List Lock) : Nat × List Lock :=
  match locks.findIdx? fun l => l.name = name with
  | some i => (i, locks)
  | none => (locks.length, locks ++ [⟨name, none⟩])

/-- The registry after the lock in this place got a new holder. -/
def setHolder (locks : List Lock) (lock : Nat) (holder : Option Nat) : List Lock :=
  locks.modify lock fun l => { l with holder }

/-- The lock in this place has no holder. -/
def isFree (locks : List Lock) (lock : Nat) : Bool := locks[lock]?.any fun l => l.holder.isNone

/-- The state after caller `i` moves on, none when it cannot. -/
def step? (s : State) (i : Nat) : Option State :=
  match s.callers[i]? with
  | none => none
  | some c =>
    match c.phase with
    | .outside =>
      let (lock, locks) := lookUp (lockName c.path) s.locks
      some ⟨locks, s.callers.set i { c with phase := .waiting lock }⟩
    | .waiting lock =>
      if isFree s.locks lock then
        some
          ⟨setHolder s.locks lock (some i),
            s.callers.set i { c with phase := .inside lock, runs := c.runs + 1 }⟩
      else none
    | .inside lock =>
      some ⟨setHolder s.locks lock none, s.callers.set i { c with phase := .gone c.panics }⟩
    | .gone _ => none

/-- The state after caller `i` was given a turn. -/
def turn (s : State) (i : Nat) : State := (step? s i).getD s

/-- The states that a schedule goes through, the start included. -/
def states : State → List Nat → List State
  | s, [] => [s]
  | s, i :: schedule => s :: states (turn s i) schedule

/-- Turns in rounds, so many that all callers are gone after them: a caller has three steps, and in
each round somebody moves who is not gone. -/
def fairSchedule (callers : Nat) : List Nat :=
  (List.replicate (3 * callers) (List.range callers)).flatten

/-! ### What a run of the gate shows -/

def Caller.isInside (c : Caller) : Bool :=
  match c.phase with
  | .inside _ => true
  | _ => false

/-- How many bodies of a path run. -/
def crowd (s : State) (path : String) : Nat := s.callers.countP fun c => c.path = path && c.isInside

/-- How often bodies of a path were started. -/
def runsOf (s : State) (path : String) : Nat :=
  (s.callers.filter fun c => c.path = path).foldl (fun n c => n + c.runs) 0

/-- How many callers ended with a panic. -/
def panicked (s : State) : Nat := s.callers.countP fun c => c.phase = .gone true

/-- What was seen of one path. -/
structure PathSurvey where
  path : String
  runs : Nat
  maxInside : Nat

/-- What is seen of the callers' paths when all callers go through a new gate, and how many callers
panicked. -/
def survey (callers : List (String × Bool)) : List PathSurvey × Nat :=
  let visited := states (start callers) (fairSchedule callers.length)
  let final := visited.getLast?.getD (start callers)
  let paths := (callers.map Prod.fst).eraseDups
  (paths.map fun path =>
      ⟨path, runsOf final path, (visited.map fun s => crowd s path).foldl max 0⟩,
    panicked final)

end DriveHealth.Gate
