/-
# What is logged

The log of a step tells what happened in it, and no more. A call that is accepted with a finding leaves one
warning with the status, in the step that made the call and in no other. The size of the device is warned of by
the two steps that judge the drive: the overall verdict does so before it fetches, a snapshot once it has its
lines. The power mode alone logs a failure, since it answers in spite of it. Every event names the device.

Key definitions: `finding?`, `Event.onlyIf`, `Event.status?`, `Move.finding?`, `Move.failure?`,
`Monitor.findingWarning`, `Runner.recording`.
Key theorems: `Step.events_move`, `Step.move_recording`, `Monitor.statuses_moves`, `log_tells_what_happened`.
-/
import DriveHealth.Proofs.Monitor.Moves

namespace DriveHealth

variable {σ : Type} {runner : Runner σ} {m : Monitor} {q : Step} {cache : Cache} {memory : σ}
  {lines : List String} {run : Run} {e : Failure} {answer : Except Failure Run}

/-! ### Findings -/

/-- The status of an answer that is a run with a finding: it is not zero, and its bits 0 and 1 are clear. -/
def finding? : Except Failure Run → Option UInt8
  | .ok run =>
    if run.status ≠ 0 ∧ run.status.toNat.testBit 0 = false ∧ run.status.toNat.testBit 1 = false then
      some run.status
    else none
  | .error _ => none

/-- An accepted run has a finding when its status is not zero. -/
theorem finding?_of_accepted {c : Call} (h : c.judge answer = .ok run) :
    finding? answer = if run.status ≠ 0 then some run.status else none := by
  obtain ⟨rfl, hfatal⟩ := Call.judge_eq_ok.mp h
  have hbits : ¬ (run.status.toNat.testBit 0 = true ∨ run.status.toNat.testBit 1 = true) := by
    rw [← isFatal_iff, hfatal]
    exact Bool.false_ne_true
  rw [not_or, Bool.not_eq_true, Bool.not_eq_true] at hbits
  simp only [finding?, hbits, and_self, and_true]

/-- A run that is not accepted has none. -/
theorem finding?_of_failed {c : Call} (h : c.judge answer = .error e) : finding? answer = none := by
  rcases answer with e' | run
  · rfl
  · rw [Call.judge] at h
    split at h
    · rename_i hfatal
      refine if_neg ?_
      rintro ⟨-, h0, h1⟩
      rcases isFatal_iff.mp hfatal with hbit | hbit
      · rw [h0] at hbit
        cases hbit
      · rw [h1] at hbit
        cases hbit
    · cases h

/-! ### Events -/

namespace Event

/-- The event, if the condition holds. -/
def onlyIf (e : Event) (P : Prop) [Decidable P] : List Event := if P then [e] else []

/-- The status that a warning of a finding tells. -/
def status? : Event → Option UInt8
  | statusNotFatal _ status => some status
  | sizeUnknown _ _ | powerModeFailed _ _ => none

end Event

namespace Monitor

/-- The warning of a finding, nothing without one. -/
def findingWarning (m : Monitor) (finding : Option UInt8) : List Event :=
  finding.toList.map (.statusNotFatal m.device.path)

theorem warnings_eq (m : Monitor) (run : Run) :
    m.warnings run = m.findingWarning (if run.status ≠ 0 then some run.status else none) := by
  rw [warnings, findingWarning]
  split <;> rfl

theorem sizeWarning_eq (m : Monitor) : m.sizeWarning =
    (Event.sizeUnknown m.device.path m.device.size).onlyIf (Health.sectorAllowance m.device.size = none) := by
  simp only [sizeWarning, Event.onlyIf, Option.isNone_iff_eq_none]

theorem statuses_findingWarning (m : Monitor) (finding : Option UInt8) :
    (m.findingWarning finding).filterMap Event.status? = finding.toList := by
  cases finding <;> rfl

end Monitor

/-! ### One step -/

namespace Move

/-- The finding of the move's call, none without a call. A move makes one call at most, and makes it from the
memory that it began with. -/
def finding? (runner : Runner σ) (mv : Move σ) : Option UInt8 :=
  mv.after.calls.findSome? fun c => DriveHealth.finding? (runner c mv.memory).1

/-- How the fetch behind the step fails, asked where the move begins. -/
def failure? (runner : Runner σ) (m : Monitor) (mv : Move σ) : Option Failure :=
  match (mv.step.fetchLines runner m ⟨mv.cache, mv.memory, [], []⟩).1 with
  | .ok _ => none
  | .error e => some e

theorem finding?_of_held (h : q.held? cache = some lines) :
    (q.move runner m cache memory).finding? runner = none := by
  rw [Step.move_of_held h]
  rfl

theorem finding?_of_accepted (hs : q.held? cache = none)
    (h : (q.call m).judge (runner (q.call m) memory).1 = .ok run) :
    (q.move runner m cache memory).finding? runner = if run.status ≠ 0 then some run.status else none := by
  rw [finding?, Step.move_of_accepted hs h, List.findSome?_singleton]
  exact DriveHealth.finding?_of_accepted h

theorem finding?_of_failed (hs : q.held? cache = none)
    (h : (q.call m).judge (runner (q.call m) memory).1 = .error e) :
    (q.move runner m cache memory).finding? runner = none := by
  rw [finding?, Step.move_of_failed hs h, List.findSome?_singleton]
  exact DriveHealth.finding?_of_failed h

theorem failure?_of_held (h : q.held? cache = some lines) :
    (q.move runner m cache memory).failure? runner m = none := by
  rw [failure?, Step.move_of_held h, Step.fetchLines_of_held h]

theorem failure?_of_accepted (hs : q.held? cache = none)
    (h : (q.call m).judge (runner (q.call m) memory).1 = .ok run) :
    (q.move runner m cache memory).failure? runner m = none := by
  rw [failure?, Step.move_of_accepted hs h, Step.fetchLines_of_accepted (s := ⟨cache, memory, [], []⟩) hs h]

theorem failure?_of_failed (hs : q.held? cache = none)
    (h : (q.call m).judge (runner (q.call m) memory).1 = .error e) :
    (q.move runner m cache memory).failure? runner m = some e := by
  rw [failure?, Step.move_of_failed hs h, Step.fetchLines_of_failed (s := ⟨cache, memory, [], []⟩) hs h]

/-- A fetch that fails leaves no finding. -/
theorem finding?_of_failure (h : (q.move runner m cache memory).failure? runner m = some e) :
    (q.move runner m cache memory).finding? runner = none := by
  rcases Step.move_cases runner m q cache memory with ⟨lines, hs⟩ | ⟨run, hs, hr⟩ | ⟨e', hs, hr⟩
  · exact finding?_of_held hs
  · rw [failure?_of_accepted hs hr] at h
    cases h
  · exact finding?_of_failed hs hr

end Move

/-- All that a step logs: what it logs before it fetches, the finding of its call, and what it logs of its
lines or of the failure to get them. -/
theorem Step.events_move (runner : Runner σ) (m : Monitor) (q : Step) (cache : Cache) (memory : σ) :
    let mv := q.move runner m cache memory
    mv.after.events = q.opening m ++ m.findingWarning (mv.finding? runner) ++
      (mv.failure? runner m).elim (q.closing m) fun e => q.failureEvents m e := by
  intro mv
  rcases move_cases runner m q cache memory with ⟨lines, hs⟩ | ⟨run, hs, hr⟩ | ⟨e, hs, hr⟩
  · rw [Move.finding?_of_held hs, Move.failure?_of_held hs]
    simp only [mv, move_of_held hs, Monitor.findingWarning, Option.toList_none, List.map_nil, List.append_nil,
      Option.elim_none]
  · rw [Move.finding?_of_accepted hs hr, Move.failure?_of_accepted hs hr, ← m.warnings_eq]
    simp only [mv, move_of_accepted hs hr, Option.elim_none]
  · rw [Move.finding?_of_failed hs hr, Move.failure?_of_failed hs hr]
    simp only [mv, move_of_failed hs hr, Monitor.findingWarning, Option.toList_none, List.map_nil, List.append_nil,
      Option.elim_some]

namespace Step

theorem events_overallStatus : (overallStatus.move runner m cache memory).after.events =
    (Event.sizeUnknown m.device.path m.device.size).onlyIf (Health.sectorAllowance m.device.size = none) ++
      m.findingWarning ((overallStatus.move runner m cache memory).finding? runner) := by
  rw [events_move, ← m.sizeWarning_eq]
  rcases (overallStatus.move runner m cache memory).failure? runner m with _ | e
  · exact List.append_nil _
  · exact List.append_nil _

theorem events_powerMode : (powerMode.move runner m cache memory).after.events =
    ((powerMode.move runner m cache memory).failure? runner m).elim
      (m.findingWarning ((powerMode.move runner m cache memory).finding? runner))
      fun e => [.powerModeFailed m.device.path e.message] := by
  rw [events_move]
  rcases hfailure : (powerMode.move runner m cache memory).failure? runner m with _ | e
  · exact List.append_nil _
  · rw [Move.finding?_of_failure hfailure]
    rfl

theorem events_collect : (collect.move runner m cache memory).after.events =
    m.findingWarning ((collect.move runner m cache memory).finding? runner) ++
      (Event.sizeUnknown m.device.path m.device.size).onlyIf
        ((collect.move runner m cache memory).failure? runner m = none ∧
          Health.sectorAllowance m.device.size = none) := by
  rw [events_move]
  rcases (collect.move runner m cache memory).failure? runner m with _ | e
  · simp only [true_and, ← m.sizeWarning_eq]
    rfl
  · simp only [Event.onlyIf, reduceCtorEq, false_and, ↓reduceIte]
    rfl

/-- All other steps log nothing of their own. -/
theorem events_of_quiet (h : q ∉ [overallStatus, powerMode, collect]) :
    (q.move runner m cache memory).after.events =
      m.findingWarning ((q.move runner m cache memory).finding? runner) := by
  have hquiet : q.opening m = [] ∧ q.closing m = [] ∧ ∀ e, q.failureEvents m e = [] := by
    cases q with
    | overallStatus | powerMode | collect => exact absurd (by simp) h
    | _ => exact ⟨rfl, rfl, fun _ => rfl⟩
  obtain ⟨hopening, hclosing, hfailure⟩ := hquiet
  rw [events_move, hopening, hclosing]
  rcases (q.move runner m cache memory).failure? runner m with _ | e
  · exact List.append_nil _
  · rw [Option.elim_some, hfailure]
    exact List.append_nil _

end Step

/-! ### A whole run -/

/-- The runner with a list of all that it answered, the first answer first. -/
def Runner.recording (runner : Runner σ) : Runner (σ × List (Except Failure Run)) := fun c kept =>
  let (answer, memory) := runner c kept.1
  (answer, memory, kept.2 ++ [answer])

/-- What a step logs beside the finding is no finding. -/
theorem Step.statuses_beside_finding (m : Monitor) (q : Step) :
    (q.opening m).filterMap Event.status? = [] ∧ (q.closing m).filterMap Event.status? = [] ∧
      ∀ e, (q.failureEvents m e).filterMap Event.status? = [] := by
  have hsize : m.sizeWarning.filterMap Event.status? = [] := by
    unfold Monitor.sizeWarning
    split <;> rfl
  cases q with
  | overallStatus => exact ⟨hsize, rfl, fun _ => rfl⟩
  | collect => exact ⟨rfl, hsize, fun _ => rfl⟩
  | _ => exact ⟨rfl, rfl, fun _ => rfl⟩

theorem Step.statuses_move : (q.move runner m cache memory).after.events.filterMap Event.status? =
    ((q.move runner m cache memory).finding? runner).toList := by
  obtain ⟨hopening, hclosing, hfailure⟩ := statuses_beside_finding m q
  rw [events_move, List.filterMap_append, List.filterMap_append, hopening, m.statuses_findingWarning,
    List.nil_append]
  cases (q.move runner m cache memory).failure? runner m with
  | none => rw [Option.elim_none, hclosing, List.append_nil]
  | some e => rw [Option.elim_some, hfailure, List.append_nil]

/-- A step is the same with a runner that keeps its answers, and it adds the answer to its call. -/
theorem Step.move_recording (runner : Runner σ) (m : Monitor) (q : Step) (cache : Cache) (memory : σ)
    (answers : List (Except Failure Run)) :
    (q.move runner.recording m cache (memory, answers)).after.cache =
      (q.move runner m cache memory).after.cache ∧
    (q.move runner.recording m cache (memory, answers)).after.memory.1 =
      (q.move runner m cache memory).after.memory ∧
    (q.move runner.recording m cache (memory, answers)).after.memory.2.filterMap finding? =
      answers.filterMap finding? ++ ((q.move runner m cache memory).finding? runner).toList := by
  have hcall : (runner.recording (q.call m) (memory, answers)).1 = (runner (q.call m) memory).1 := rfl
  have hlast : (answers ++ [(runner (q.call m) memory).1]).filterMap finding? =
      answers.filterMap finding? ++ (finding? (runner (q.call m) memory).1).toList := by
    rw [List.filterMap_append, List.filterMap_cons]
    cases finding? (runner (q.call m) memory).1 <;> rfl
  rcases move_cases runner m q cache memory with ⟨lines, hs⟩ | ⟨run, hs, hr⟩ | ⟨e, hs, hr⟩
  · rw [Move.finding?_of_held hs, move_of_held hs, move_of_held hs, Option.toList_none, List.append_nil]
    exact ⟨rfl, rfl, rfl⟩
  · rw [Move.finding?_of_accepted hs hr, ← finding?_of_accepted hr, move_of_accepted hs hr,
      move_of_accepted hs (hcall ▸ hr)]
    exact ⟨rfl, rfl, hlast⟩
  · rw [Move.finding?_of_failed hs hr, ← finding?_of_failed hr, move_of_failed hs hr,
      move_of_failed hs (hcall ▸ hr)]
    exact ⟨rfl, rfl, hlast⟩

namespace Monitor

/-- The statuses that a run warns of are those of the findings among its answers. -/
theorem statuses_moves (runner : Runner σ) (m : Monitor) (cache : Cache) (memory : σ)
    (answers : List (Except Failure Run)) (steps : List Step) :
    answers.filterMap finding? ++
        ((m.moves runner cache memory steps).flatMap fun mv => mv.after.events).filterMap Event.status? =
      (m.stateAfter runner.recording cache (memory, answers) steps).2.2.filterMap finding? := by
  induction steps generalizing cache memory answers with
  | nil => exact List.append_nil _
  | cons q rest ih =>
    obtain ⟨hcache, hmemory, hstatuses⟩ := Step.move_recording runner m q cache memory answers
    rw [moves, List.flatMap_cons, List.filterMap_append, Step.statuses_move, stateAfter, hcache,
      ← List.append_assoc, ← hstatuses, ← hmemory]
    exact ih _ _ _

theorem step_moves (steps : List Step) : (m.moves runner cache memory steps).map Move.step = steps := by
  induction steps generalizing cache memory with
  | nil => rfl
  | cons q rest ih => rw [moves, List.map_cons, ih]; rfl

theorem exists_of_mem_moves {mv : Move σ} {steps : List Step} (h : mv ∈ m.moves runner cache memory steps) :
    ∃ q cache memory, mv = Step.move runner m q cache memory := by
  induction steps generalizing cache memory with
  | nil => cases h
  | cons q rest ih =>
    rcases List.mem_cons.mp h with rfl | h
    · exact ⟨q, cache, memory, rfl⟩
    · exact ih h

end Monitor

/-- **The log tells what happened.** The overall verdict warns of a device whose size gives no allowance, and
then of the finding of its call, if it made one that has a finding. The power mode warns of the finding, or
else it logs the failure just when its fetch fails. A snapshot warns of the finding, and then of the size if its
fetch went well. All other steps warn of the finding alone. Each event tells the path of the device, and with it
the size, the status of the finding or the message of the failure. In a whole run the statuses that are warned
of are those of the runner's answers with a finding, as many and in the same order. -/
theorem log_tells_what_happened (runner : Runner σ) (m : Monitor) (cache : Cache) (memory : σ)
    (steps : List Step) :
    let moves := m.moves runner cache memory steps
    let answers := (m.stateAfter runner.recording cache (memory, []) steps).2.2
    let sizeWarning := Event.sizeUnknown m.device.path m.device.size
    let unknown := Health.sectorAllowance m.device.size = none
    moves.map Move.step = steps ∧
    (∀ mv ∈ moves,
      let status := (mv.finding? runner).toList.map (Event.statusNotFatal m.device.path)
      (mv.step = .overallStatus → mv.after.events = sizeWarning.onlyIf unknown ++ status) ∧
      (mv.step = .powerMode → mv.after.events =
        (mv.failure? runner m).elim status fun e => [.powerModeFailed m.device.path e.message]) ∧
      (mv.step = .collect →
        mv.after.events = status ++ sizeWarning.onlyIf (mv.failure? runner m = none ∧ unknown)) ∧
      (mv.step ∉ [.overallStatus, .powerMode, .collect] → mv.after.events = status)) ∧
    (moves.flatMap fun mv => mv.after.events).filterMap Event.status? = answers.filterMap finding? := by
  intro moves answers sizeWarning unknown
  refine ⟨Monitor.step_moves steps, fun mv hmv => ?_, ?_⟩
  · obtain ⟨q, cache', memory', rfl⟩ := Monitor.exists_of_mem_moves hmv
    refine ⟨fun hq => ?_, fun hq => ?_, fun hq => ?_, Step.events_of_quiet⟩
    · obtain rfl : q = .overallStatus := hq
      exact Step.events_overallStatus
    · obtain rfl : q = .powerMode := hq
      exact Step.events_powerMode
    · obtain rfl : q = .collect := hq
      exact Step.events_collect
  · exact Monitor.statuses_moves runner m cache memory [] steps

end DriveHealth
