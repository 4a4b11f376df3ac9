/-
# Sessions with one drive

A monitor watches one device with fixed settings. Its queries run in a session, which holds the output
kept from the last accepted run, what the runner remembers, the calls made and the events logged. A
query gives an answer or a failure and the session after it.

Key definitions: `Cache`, `Cache.lookup`, `Monitor`, `Event`, `Session`, `Query`, `Monitor.execute`,
`Monitor.fetchWith`, `Monitor.refresh`.
Key theorems: `Cache.lookup_eq_some`, `Query.bind_of_ok`, `Query.bind_of_error`.
-/
import DriveHealth.FileTree
import DriveHealth.Smartctl.Run

namespace DriveHealth

/-! ### The output kept between queries -/

/-- The last accepted output and the kind it was asked for. -/
inductive Cache
  | empty
  | filled (kind : OutputKind) (lines : List String)
  deriving DecidableEq, Repr

namespace Cache

/-- The lines kept, if they answer a request for this kind. -/
def lookup : Cache → OutputKind → Option (List String)
  | empty, _ => none
  | filled kind lines, wanted => if kind.covers wanted then some lines else none

def kind? : Cache → Option OutputKind
  | empty => none
  | filled kind _ => some kind

theorem lookup_filled (kind : OutputKind) (lines : List String) :
    (filled kind lines).lookup kind = some lines := by
  simp [lookup, OutputKind.covers]

theorem lookup_eq_some {cache : Cache} {wanted : OutputKind} {lines : List String} :
    cache.lookup wanted = some lines ↔ ∃ kind, cache = filled kind lines ∧ kind.covers wanted = true := by
  constructor
  · intro h
    rcases cache with _ | ⟨kind, held⟩
    · cases h
    · rw [lookup] at h
      split at h
      · cases h
        exact ⟨kind, rfl, ‹_›⟩
      · cases h
  · rintro ⟨kind, rfl, hc⟩
    rw [lookup, if_pos hc]

end Cache

/-! ### Monitors and sessions -/

/-- The settings of a monitor. -/
structure Monitor where
  device : Device
  program : String
  /-- The power state in which a sleeping drive is left alone. -/
  nocheck : Option String
  deriving DecidableEq, Repr

/-- What is logged beside the answers, as a warning or an error. Each event names the device by its path. -/
inductive Event
  | sizeUnknown (device : String) (size : UInt64)
  | statusNotFatal (device : String) (status : UInt8)
  /-- The error is the message of the failure, which shows the call. -/
  | powerModeFailed (device error : String)
  deriving DecidableEq, Repr

/-- Level and message of an event. -/
def Event.text : Event → String
  | sizeUnknown _ _ => "WARN device size unknown; bad-sector count rule skipped"
  | statusNotFatal _ _ => "WARN smartctl reported a non-fatal status; output accepted"
  | powerModeFailed _ _ => "ERROR failed to read power mode"

structure Session (σ : Type) where
  cache : Cache
  /-- What the runner remembers. -/
  memory : σ
  /-- The calls made, the first one first. -/
  calls : List Call
  /-- The events logged, the first one first. -/
  events : List Event

/-- Asks something in a session. -/
def Query (σ α : Type) := Session σ → Except Failure α × Session σ

namespace Query

variable {σ α β : Type}

/-- An answer that needs nothing. -/
protected def pure (a : α) : Query σ α := fun s => (.ok a, s)

/-- One query after another; a failure of the first is the failure of both. -/
protected def bind (q : Query σ α) (next : α → Query σ β) : Query σ β := fun s =>
  match q s with
  | (.ok a, s) => next a s
  | (.error e, s) => (.error e, s)

instance : Monad (Query σ) where
  pure := Query.pure
  bind := Query.bind

/-- Answers with a failure. -/
def fail (e : Failure) : Query σ α := fun s => (.error e, s)

/-- The output kept. -/
def cached : Query σ Cache := fun s => (.ok s.cache, s)

/-- Keeps an output in place of the last one. -/
def keep (cache : Cache) : Query σ Unit := fun s => (.ok (), { s with cache })

/-- Logs an event. -/
def logEvent (e : Event) : Query σ Unit := fun s => (.ok (), { s with events := s.events ++ [e] })

/-- The answer of `q`, or of `rescue` when `q` fails. -/
def recover (q : Query σ α) (rescue : Failure → Query σ α) : Query σ α := fun s =>
  match q s with
  | (.ok a, s) => (.ok a, s)
  | (.error e, s) => rescue e s

/-- Has the runner carry out a call. -/
def call (runner : Runner σ) (c : Call) : Query σ Run := fun s =>
  let (answer, memory) := runner c s.memory
  (answer, { s with memory, calls := s.calls ++ [c] })

/-! ### What is asked in turn -/

variable {q : Query σ α} {s s' : Session σ}

theorem cached_apply (s : Session σ) : (cached : Query σ Cache) s = (.ok s.cache, s) := rfl

theorem keep_apply (cache : Cache) (s : Session σ) :
    (keep cache : Query σ Unit) s = (.ok (), { s with cache }) := rfl

theorem logEvent_apply (e : Event) (s : Session σ) :
    (logEvent e : Query σ Unit) s = (.ok (), { s with events := s.events ++ [e] }) := rfl

theorem call_apply (runner : Runner σ) (c : Call) (s : Session σ) : call runner c s =
    ((runner c s.memory).1, ⟨s.cache, (runner c s.memory).2, s.calls ++ [c], s.events⟩) := rfl

theorem bind_of_ok {a : α} (h : q s = (.ok a, s')) (next : α → Query σ β) :
    (q >>= next) s = next a s' := by
  show Query.bind q next s = _
  rw [Query.bind, h]

theorem bind_of_error {e : Failure} (h : q s = (.error e, s')) (next : α → Query σ β) :
    (q >>= next) s = (.error e, s') := by
  show Query.bind q next s = _
  rw [Query.bind, h]

theorem recover_of_ok {a : α} (h : q s = (.ok a, s')) (rescue : Failure → Query σ α) :
    q.recover rescue s = (.ok a, s') := by
  rw [recover, h]

theorem recover_of_error {e : Failure} (h : q s = (.error e, s')) (rescue : Failure → Query σ α) :
    q.recover rescue s = rescue e s' := by
  rw [recover, h]

end Query

namespace Monitor

variable {σ : Type} (runner : Runner σ) (m : Monitor)

/-- Runs smartctl. A fatal status is a failure that keeps the lines; any other status but zero is
logged and the lines are accepted. -/
def execute (kind : OutputKind) (nocheck typeHint : Option String) : Query σ (List String) := do
  let c : Call := ⟨m.program, Call.arguments kind nocheck typeHint m.device.path⟩
  let run ← Query.call runner c
  if isFatal run.status then
    Query.fail (.fatalStatus c.text run.lines run.status)
  else
    if run.status ≠ 0 then Query.logEvent (.statusNotFatal m.device.path run.status)
    pure run.lines

/-- The lines for a kind of output. What is kept is used if it covers the kind; otherwise smartctl runs
and its lines are kept. -/
def fetchWith (kind : OutputKind) (nocheck typeHint : Option String) : Query σ (List String) := do
  if ((← Query.cached).lookup kind).isNone then
    let lines ← execute runner m kind nocheck typeHint
    Query.keep (.filled kind lines)
  return ((← Query.cached).lookup kind).getD []

/-- The lines for a kind of output with the monitor's own settings. -/
def fetch (kind : OutputKind) : Query σ (List String) :=
  fetchWith runner m kind m.nocheck m.device.typeHint

/-- Forgets what is kept and fetches anew. -/
def refresh (kind : OutputKind) : Query σ (List String) := do
  Query.keep .empty
  fetch runner m kind

end Monitor

end DriveHealth
