/-
# Runs of a monitor, move by move

A run asks one step after another. Each step begins with what the one before it left kept and with what
the runner remembers, and starts with no calls and no events of its own. A move records one step: where
it began, what it answered and the session after it.

A bay that holds one monitor goes through the same moves (`Bay.runSteps_single`), and two runners that
answer alike are not told apart by them (`Monitor.seen_moves_of_simulation`).

Key definitions: `Move`, `Step.move`, `Monitor.moves`, `Monitor.stateAfter`, `Move.seen`.
Key theorems: `Step.move_cases`, `Monitor.moves_append`, `Monitor.seen_moves_of_simulation`,
`Bay.runSteps_single`.
-/
import DriveHealth.Monitor.Bay
import DriveHealth.Proofs.Monitor.Transition
import Mathlib.Tactic.Set

namespace DriveHealth

/-- One step of a run. -/
structure Move (σ : Type) where
  step : Step
  /-- What was kept before the step. -/
  cache : Cache
  /-- What the runner remembered before the step. -/
  memory : σ
  answer : Except Failure Answer
  /-- The session after the step, with the calls and the events of this step alone. -/
  after : Session σ

/-- The move that asking a step makes. -/
def Step.move {σ : Type} (runner : Runner σ) (m : Monitor) (q : Step) (cache : Cache) (memory : σ) : Move σ :=
  let (answer, after) := q.run runner m ⟨cache, memory, [], []⟩
  ⟨q, cache, memory, answer, after⟩

namespace Monitor

variable {σ : Type} (runner : Runner σ) (m : Monitor)

/-- The moves of a run, the first one first. -/
def moves : Cache → σ → List Step → List (Move σ)
  | _, _, [] => []
  | cache, memory, q :: rest =>
    q.move runner m cache memory ::
      moves (q.move runner m cache memory).after.cache (q.move runner m cache memory).after.memory rest

/-- What is kept after a run, and what the runner remembers then. -/
def stateAfter : Cache → σ → List Step → Cache × σ
  | cache, memory, [] => (cache, memory)
  | cache, memory, q :: rest =>
    stateAfter (q.move runner m cache memory).after.cache (q.move runner m cache memory).after.memory rest

end Monitor

variable {σ τ : Type} {runner : Runner σ} {runner' : Runner τ} {m : Monitor} {q : Step} {cache : Cache}
  {memory : σ} {memory' : τ} {lines : List String} {run : Run} {e : Failure}

/-! ### One move -/

namespace Step

theorem move_of_held (h : q.held? cache = some lines) : q.move runner m cache memory =
    ⟨q, cache, memory, .ok (q.answer m lines), ⟨cache, memory, [], q.opening m ++ q.closing m⟩⟩ := by
  have hrun : q.run runner m ⟨cache, memory, [], []⟩ =
      (.ok (q.answer m lines), ⟨cache, memory, [], [] ++ q.opening m ++ q.closing m⟩) := run_of_held h
  rw [move, hrun]
  rfl

theorem move_of_accepted (hs : q.held? cache = none)
    (h : (q.call m).judge (runner (q.call m) memory).1 = .ok run) : q.move runner m cache memory =
    ⟨q, cache, memory, .ok (q.answer m run.lines), ⟨.filled q.kind run.lines, (runner (q.call m) memory).2,
      [q.call m], q.opening m ++ m.warnings run ++ q.closing m⟩⟩ := by
  have hrun := run_of_accepted (s := ⟨cache, memory, [], []⟩) hs h
  rw [move, hrun]
  rfl

theorem move_of_failed (hs : q.held? cache = none)
    (h : (q.call m).judge (runner (q.call m) memory).1 = .error e) : q.move runner m cache memory =
    ⟨q, cache, memory, q.onFailure e, ⟨q.afterFailure cache, (runner (q.call m) memory).2, [q.call m],
      q.opening m ++ q.failureEvents m e⟩⟩ := by
  have hrun := run_of_failed (s := ⟨cache, memory, [], []⟩) hs h
  rw [move, hrun]
  rfl

/-- All that a step can do. -/
theorem move_cases (runner : Runner σ) (m : Monitor) (q : Step) (cache : Cache) (memory : σ) :
    (∃ lines, q.held? cache = some lines) ∨
    (∃ run, q.held? cache = none ∧ (q.call m).judge (runner (q.call m) memory).1 = .ok run) ∨
    (∃ e, q.held? cache = none ∧ (q.call m).judge (runner (q.call m) memory).1 = .error e) := by
  rcases hs : q.held? cache with _ | lines
  · rcases hr : (q.call m).judge (runner (q.call m) memory).1 with e | run
    · exact .inr (.inr ⟨e, rfl, rfl⟩)
    · exact .inr (.inl ⟨run, rfl, rfl⟩)
  · exact .inl ⟨lines, rfl⟩

theorem memory_of_held (h : q.held? cache = some lines) :
    (q.move runner m cache memory).after.memory = memory := by
  rw [move_of_held h]

theorem memory_of_not_held (hs : q.held? cache = none) :
    (q.move runner m cache memory).after.memory = (runner (q.call m) memory).2 := by
  rcases hr : (q.call m).judge (runner (q.call m) memory).1 with e | run
  · rw [move_of_failed hs hr]
  · rw [move_of_accepted hs hr]

/-- A move depends on the runner only by the one call that it may make. -/
theorem move_congr {other : Runner σ}
    (h : q.held? cache = none → other (q.call m) memory = runner (q.call m) memory) :
    q.move other m cache memory = q.move runner m cache memory := by
  rcases move_cases runner m q cache memory with ⟨lines, hs⟩ | ⟨run, hs, hr⟩ | ⟨e, hs, hr⟩
  · rw [move_of_held hs, move_of_held hs]
  · have hr' : (q.call m).judge (other (q.call m) memory).1 = .ok run := by rw [h hs, hr]
    rw [move_of_accepted hs hr, move_of_accepted hs hr', h hs]
  · have hr' : (q.call m).judge (other (q.call m) memory).1 = .error e := by rw [h hs, hr]
    rw [move_of_failed hs hr, move_of_failed hs hr', h hs]

end Step

/-! ### Runs -/

namespace Monitor

theorem moves_append (cache : Cache) (memory : σ) (first later : List Step) :
    m.moves runner cache memory (first ++ later) =
      m.moves runner cache memory first ++ m.moves runner (m.stateAfter runner cache memory first).1
        (m.stateAfter runner cache memory first).2 later := by
  induction first generalizing cache memory with
  | nil => rfl
  | cons q rest ih => rw [List.cons_append, moves, ih, moves, List.cons_append, stateAfter]

theorem length_moves (cache : Cache) (memory : σ) (steps : List Step) :
    (m.moves runner cache memory steps).length = steps.length := by
  induction steps generalizing cache memory with
  | nil => rfl
  | cons q rest ih => rw [moves, List.length_cons, ih, List.length_cons]

end Monitor

/-! ### What is seen of a run -/

/-- A move without what the runner remembers. -/
def Move.seen (mv : Move σ) : Move Unit :=
  ⟨mv.step, mv.cache, (), mv.answer, ⟨mv.after.cache, (), mv.after.calls, mv.after.events⟩⟩

/-- Two runners show the same move when they answer alike the one call that it may make. -/
theorem Step.seen_move_congr
    (h : q.held? cache = none → (runner (q.call m) memory).1 = (runner' (q.call m) memory').1) :
    (q.move runner m cache memory).seen = (q.move runner' m cache memory').seen := by
  rcases move_cases runner m q cache memory with ⟨lines, hs⟩ | ⟨run, hs, hr⟩ | ⟨e, hs, hr⟩
  · rw [move_of_held hs, move_of_held hs]
    rfl
  · have hr' := h hs ▸ hr
    rw [move_of_accepted hs hr, move_of_accepted hs hr']
    rfl
  · have hr' := h hs ▸ hr
    rw [move_of_failed hs hr, move_of_failed hs hr']
    rfl

/-- Two runners show the same run when their memories stay related and related memories answer alike. -/
theorem Monitor.seen_moves_of_simulation (R : σ → τ → Prop)
    (hR : ∀ c a b, R a b → (runner c a).1 = (runner' c b).1 ∧ R (runner c a).2 (runner' c b).2)
    (h : R memory memory') (steps : List Step) :
    (m.moves runner cache memory steps).map Move.seen =
      (m.moves runner' cache memory' steps).map Move.seen := by
  induction steps generalizing cache memory memory' with
  | nil => rfl
  | cons q rest ih =>
    have hseen : (q.move runner m cache memory).seen = (q.move runner' m cache memory').seen :=
      Step.seen_move_congr fun _ => (hR _ _ _ h).1
    have hcache : (q.move runner m cache memory).after.cache = (q.move runner' m cache memory').after.cache :=
      congrArg (fun mv => mv.after.cache) hseen
    have hmemory : R (q.move runner m cache memory).after.memory
        (q.move runner' m cache memory').after.memory := by
      rcases hs : q.held? cache with _ | lines
      · rw [Step.memory_of_not_held hs, Step.memory_of_not_held hs]
        exact (hR _ _ _ h).2
      · rw [Step.memory_of_held hs, Step.memory_of_held hs]
        exact h
    simp only [moves, List.map_cons]
    rw [hseen, hcache, ih hmemory]

/-! ### Accepted calls -/

namespace Move

/-- The kind that the move's call asked for and the lines that it printed, if the run was accepted. -/
def accepted? (runner : Runner σ) (mv : Move σ) : Option (OutputKind × List String) :=
  match mv.after.calls with
  | [c] =>
    match (runner c mv.memory).1 with
    | .ok run => if isFatal run.status then none else some (mv.step.kind, run.lines)
    | .error _ => none
  | _ => none

theorem accepted?_of_held (h : q.held? cache = some lines) :
    (q.move runner m cache memory).accepted? runner = none := by
  rw [Step.move_of_held h, accepted?]

theorem accepted?_of_accepted (hs : q.held? cache = none)
    (h : (q.call m).judge (runner (q.call m) memory).1 = .ok run) :
    (q.move runner m cache memory).accepted? runner = some (q.kind, run.lines) := by
  obtain ⟨hr, hf⟩ := Call.judge_eq_ok.mp h
  rw [Step.move_of_accepted hs h]
  simp [accepted?, hr, hf]

theorem accepted?_of_failed (hs : q.held? cache = none)
    (h : (q.call m).judge (runner (q.call m) memory).1 = .error e) :
    (q.move runner m cache memory).accepted? runner = none := by
  rw [Step.move_of_failed hs h]
  rcases hr : (runner (q.call m) memory).1 with e' | run
  · simp [accepted?, hr]
  · rw [hr, Call.judge] at h
    split at h
    · rename_i hf
      simp [accepted?, hr, hf]
    · cases h

end Move

/-! ### Bays -/

namespace Bay

theorem step_single (cache : Cache) (memory : σ) (calls : List (Nat × Call)) (q : Step) :
    (⟨[⟨m, cache⟩], memory, calls⟩ : Bay σ).step runner 0 q =
      let mv := q.move runner m cache memory
      let made := calls ++ mv.after.calls.map fun c => (0, c)
      some (⟨mv.answer, mv.after.cache.kind?, made.length, mv.after.events⟩,
        ⟨[⟨m, mv.after.cache⟩], mv.after.memory, made⟩) := rfl

/-- A bay with one monitor shows the moves of that monitor. -/
theorem runSteps_single (cache : Cache) (memory : σ) (calls : List (Nat × Call)) (steps : List Step) :
    let outcome := (⟨[⟨m, cache⟩], memory, calls⟩ : Bay σ).runSteps runner (steps.map fun q => (0, q))
    let moves := m.moves runner cache memory steps
    let state := m.stateAfter runner cache memory steps
    (outcome.1.map fun r => (r.answer, r.cached, r.events)) =
        (moves.map fun mv => (mv.answer, mv.after.cache.kind?, mv.after.events)) ∧
      outcome.2 = ⟨[⟨m, state.1⟩], state.2,
        calls ++ moves.flatMap fun mv => mv.after.calls.map fun c => (0, c)⟩ := by
  induction steps generalizing cache memory calls with
  | nil => exact ⟨rfl, by simp [runSteps, Monitor.moves, Monitor.stateAfter]⟩
  | cons q rest ih =>
    set mv := q.move runner m cache memory with hmv
    obtain ⟨hrecords, hbay⟩ := ih mv.after.cache mv.after.memory (calls ++ mv.after.calls.map fun c => (0, c))
    simp only [List.map_cons, runSteps, step_single, Monitor.moves, Monitor.stateAfter, List.flatMap_cons,
      ← List.append_assoc, ← hmv]
    exact ⟨congrArg _ hrecords, hbay⟩

end Bay

end DriveHealth
