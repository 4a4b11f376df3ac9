/-
# Failed steps

The outcomes of a monitor's calls come as a stream, and every call uses up one of them. A step whose
outcome is a failure takes that outcome with it and nothing else: without the two, the rest of the run
is what it was. A refresh leaves one trace, since it forgot what was kept before it failed.

Key definitions: `Runner.follow`, `Outcome.skip`, `Outcome.Fails`.
Key theorems: `Monitor.moves_of_agree_below`, `Monitor.seen_moves_skip`, `failed_step_leaves_no_trace`.
-/
import DriveHealth.Proofs.Monitor.Moves

namespace DriveHealth

/-- Answers the calls from a stream of outcomes; it remembers how many of them are used up. -/
def Runner.follow (script : Nat → Outcome) : Runner Nat := fun c used => ((script used).answer c, used + 1)

namespace Outcome

/-- The stream without its outcome number `k`. -/
def skip (script : Nat → Outcome) (k : Nat) : Nat → Outcome :=
  fun j => if j < k then script j else script (j + 1)

/-- The outcome leaves no lines that can be used. -/
def Fails : Outcome → Prop
  | notStarted _ | killed => True
  | ended run => isFatal run.status = true

theorem skip_of_lt {script : Nat → Outcome} {j k : Nat} (h : j < k) : skip script k j = script j := if_pos h

theorem skip_of_le {script : Nat → Outcome} {j k : Nat} (h : k ≤ j) : skip script k j = script (j + 1) :=
  if_neg (Nat.not_lt.mpr h)

variable {c : Call} {o : Outcome}

theorem Fails.exists_judge_eq (h : o.Fails) : ∃ e, c.judge (o.answer c) = .error e := by
  cases o with
  | notStarted cause => exact ⟨_, rfl⟩
  | killed => exact ⟨_, rfl⟩
  | ended run => exact ⟨_, if_pos h⟩

/-- The failure is that of a fatal status just when the run ended. -/
theorem judge_answer_eq_fatalStatus (h : o.Fails) (command : String) (lines : List String) (status : UInt8) :
    c.judge (o.answer c) = .error (.fatalStatus command lines status) ↔
      o = .ended ⟨status, lines⟩ ∧ command = c.text := by
  cases o with
  | notStarted cause => simp [answer, Call.judge]
  | killed => simp [answer, Call.judge]
  | ended run =>
    have hjudge : c.judge (answer c (.ended run)) = .error (.fatalStatus c.text run.lines run.status) :=
      if_pos h
    obtain ⟨status', lines'⟩ := run
    rw [hjudge, Except.error.injEq, Failure.fatalStatus.injEq, Outcome.ended.injEq, Run.mk.injEq]
    constructor
    · rintro ⟨rfl, rfl, rfl⟩
      exact ⟨⟨rfl, rfl⟩, rfl⟩
    · rintro ⟨⟨rfl, rfl⟩, rfl⟩
      exact ⟨rfl, rfl, rfl⟩

/-- Without a run that ended, the failure is the runner's own. -/
theorem judge_answer_eq_answer (h : ∀ run, o ≠ .ended run) : c.judge (o.answer c) = o.answer c := by
  cases o with
  | notStarted cause => rfl
  | killed => rfl
  | ended run => exact absurd rfl (h run)

end Outcome

variable {m : Monitor} {q : Step} {cache held : Cache} {script script' : Nat → Outcome} {k used : Nat}
  {steps : List Step}

/-! ### Outcomes that are used up -/

namespace Monitor

theorem le_stateAfter_follow (script : Nat → Outcome) (m : Monitor) (cache : Cache) (used : Nat)
    (steps : List Step) :
    used ≤ (m.stateAfter (.follow script) cache used steps).2 := by
  induction steps generalizing cache used with
  | nil => exact Nat.le_refl used
  | cons q rest ih =>
    refine Nat.le_trans ?_ (ih _ _)
    rcases hs : q.held? cache with _ | lines
    · rw [Step.memory_of_not_held hs]
      exact Nat.le_succ used
    · exact Nat.le_of_eq (Step.memory_of_held hs).symm

/-- A run depends on no outcome beyond those that it uses up. -/
theorem moves_of_agree_below
    (h : ∀ j, j < (m.stateAfter (.follow script) cache used steps).2 → script' j = script j) :
    m.moves (.follow script') cache used steps = m.moves (.follow script) cache used steps ∧
      m.stateAfter (.follow script') cache used steps = m.stateAfter (.follow script) cache used steps := by
  induction steps generalizing cache used with
  | nil => exact ⟨rfl, rfl⟩
  | cons q rest ih =>
    have hmove : q.move (.follow script') m cache used = q.move (.follow script) m cache used := by
      refine Step.move_congr fun hs => ?_
      have hused : used < (m.stateAfter (.follow script) cache used (q :: rest)).2 := by
        have hle := le_stateAfter_follow script m (q.move (.follow script) m cache used).after.cache
          (q.move (.follow script) m cache used).after.memory rest
        rw [Step.memory_of_not_held hs] at hle
        rw [stateAfter, Step.memory_of_not_held hs]
        exact hle
      rw [Runner.follow, Runner.follow, h used hused]
    rw [stateAfter] at h
    rw [moves, moves, stateAfter, stateAfter, hmove]
    obtain ⟨hmoves, hstate⟩ := ih h
    exact ⟨congrArg _ hmoves, hstate⟩

/-- The steps before an outcome do not miss it. -/
theorem moves_before_skip (hstate : m.stateAfter (.follow script) cache used steps = (held, k)) :
    m.moves (.follow (Outcome.skip script k)) cache used steps = m.moves (.follow script) cache used steps ∧
      m.stateAfter (.follow (Outcome.skip script k)) cache used steps = (held, k) := by
  rw [← hstate]
  refine moves_of_agree_below fun j hj => Outcome.skip_of_lt ?_
  rwa [hstate] at hj

/-- From an outcome on, the stream without it shows what the stream shows behind it. -/
theorem seen_moves_skip (hk : k ≤ used) (cache : Cache) (steps : List Step) :
    (m.moves (.follow (Outcome.skip script k)) cache used steps).map Move.seen =
      (m.moves (.follow script) cache (used + 1) steps).map Move.seen := by
  refine seen_moves_of_simulation (fun a b => b = a + 1 ∧ k ≤ a) ?_ ⟨rfl, hk⟩ steps
  rintro c a b ⟨rfl, hka⟩
  refine ⟨?_, rfl, Nat.le_succ_of_le hka⟩
  rw [Runner.follow, Runner.follow, Outcome.skip_of_le hka]

/-- What is seen of a run without its step after `first`. -/
theorem seen_moves_eraseIdx (first later : List Step)
    (hstate : m.stateAfter (.follow script) cache used first = (held, k))
    (hmemory : (q.move (.follow script) m held k).after.memory = k + 1) :
    ((m.moves (.follow script) cache used (first ++ q :: later)).map Move.seen).eraseIdx first.length =
      (m.moves (.follow (Outcome.skip script k)) cache used first).map Move.seen ++
        (m.moves (.follow (Outcome.skip script k)) (q.move (.follow script) m held k).after.cache k later).map
          Move.seen := by
  have hlength : ((m.moves (.follow script) cache used first).map Move.seen).length = first.length := by
    rw [List.length_map, length_moves]
  rw [moves_append, hstate, moves, hmemory, List.map_append, List.map_cons, ← hlength,
    List.eraseIdx_append_of_length_le (Nat.le_refl _), Nat.sub_self, List.eraseIdx_cons_zero,
    (moves_before_skip hstate).1, seen_moves_skip (Nat.le_refl k)]

end Monitor

/-! ### Steps that failed -/

theorem held?_of_calls (hcall : (q.move (.follow script) m held k).after.calls ≠ []) : q.held? held = none := by
  rcases hs : q.held? held with _ | lines
  · rfl
  · exact absurd (by rw [Step.move_of_held hs]) hcall

/-- What a step answers when its outcome is a failure. -/
theorem answer_of_fails (hs : q.held? held = none) (hfails : (script k).Fails) (hq : q ≠ .powerMode) :
    let answer := (q.move (.follow script) m held k).answer
    (∀ command lines status, answer = .error (.fatalStatus command lines status) ↔
      script k = .ended ⟨status, lines⟩ ∧ command = (q.call m).text) ∧
    ((∀ run, script k ≠ .ended run) → ∃ e, (script k).answer (q.call m) = .error e ∧ answer = .error e) := by
  intro answer
  obtain ⟨e, hjudge⟩ := hfails.exists_judge_eq (c := q.call m)
  have hanswer : answer = .error e := by
    have hmv : q.move (.follow script) m held k = _ := Step.move_of_failed hs hjudge
    simp only [answer, hmv]
    cases q with
    | powerMode => exact absurd rfl hq
    | _ => rfl
  refine ⟨fun command lines status => ?_, fun hended => ⟨e, ?_, hanswer⟩⟩
  · rw [← Outcome.judge_answer_eq_fatalStatus hfails, hjudge, hanswer, Except.error.injEq,
      Except.error.injEq]
  · rw [← hjudge, Outcome.judge_answer_eq_answer hended]

/-- **A failed step leaves no trace.** When a step's call fails, the step has used up one outcome and
left what was kept as it was. Without the step and its outcome, every other step begins, answers, calls
and logs as before. A refresh leaves nothing kept, and the steps after it go as if all was forgotten.
The failure is that of the fatal status if the run ended and the runner's own otherwise; the power mode
alone answers a word instead, and leaves what a fetch that fails would leave. -/
theorem failed_step_leaves_no_trace (script : Nat → Outcome) (m : Monitor) (cache : Cache) (used : Nat)
    (first later : List Step) (q : Step) {held : Cache} {k : Nat}
    (hstate : m.stateAfter (.follow script) cache used first = (held, k))
    (hcall : (q.move (.follow script) m held k).after.calls ≠ []) (hfails : (script k).Fails) :
    let mv := q.move (.follow script) m held k
    let others :=
      ((m.moves (.follow script) cache used (first ++ q :: later)).map Move.seen).eraseIdx first.length
    let without := Runner.follow (Outcome.skip script k)
    mv.after.memory = k + 1 ∧
    (q.isRefresh = false → mv.after.cache = held ∧
      others = (m.moves without cache used (first ++ later)).map Move.seen) ∧
    (q.isRefresh = true → mv.after.cache = .empty ∧
      others = (m.moves without cache used first).map Move.seen ++
        (m.moves without .empty k later).map Move.seen) ∧
    (q ≠ .powerMode →
      (∀ command lines status, mv.answer = .error (.fatalStatus command lines status) ↔
        script k = .ended ⟨status, lines⟩ ∧ command = (q.call m).text) ∧
      ((∀ run, script k ≠ .ended run) →
        ∃ e, (script k).answer (q.call m) = .error e ∧ mv.answer = .error e)) ∧
    (q = .powerMode → mv.answer = .ok (.text "ERROR") ∧
      ∃ e events, (Step.fetch .default).move (.follow script) m held k =
        ⟨.fetch .default, held, k, .error e, { mv.after with events }⟩) := by
  intro mv others without
  obtain ⟨e, hr⟩ := hfails.exists_judge_eq (c := q.call m)
  have hs : q.held? held = none := held?_of_calls hcall
  have hmv : mv = ⟨q, held, k, q.onFailure e, ⟨q.afterFailure held, k + 1, [q.call m],
      q.opening m ++ q.failureEvents m e⟩⟩ := Step.move_of_failed hs hr
  have hcache : mv.after.cache = q.afterFailure held := by rw [hmv]
  have hmemory : mv.after.memory = k + 1 := by rw [hmv]
  have hothers := Monitor.seen_moves_eraseIdx (q := q) first later hstate hmemory
  refine ⟨hmemory, fun hq => ?_, fun hq => ?_, answer_of_fails hs hfails, fun hq => ?_⟩
  · have hkept : mv.after.cache = held := by rw [hcache, Step.afterFailure_of_not_refresh hq]
    refine ⟨hkept, hothers.trans ?_⟩
    rw [Monitor.moves_append, (Monitor.moves_before_skip hstate).2, List.map_append]
    show _ ++ (m.moves _ mv.after.cache k later).map Move.seen = _
    rw [hkept]
  · have hempty : mv.after.cache = .empty := by rw [hcache, Step.afterFailure, if_pos hq]
    refine ⟨hempty, hothers.trans ?_⟩
    show _ ++ (m.moves _ mv.after.cache k later).map Move.seen = _
    rw [hempty]
  · subst hq
    refine ⟨by rw [hmv]; rfl, e, [], ?_⟩
    rw [hmv]
    exact Step.move_of_failed hs hr

/-- A drive that was refused once, between two calls that went well. -/
theorem refused_once_leaves_no_trace :
    let m : Monitor := ⟨⟨"/dev/sda", none, 0⟩, "smartctl", none⟩
    let script : Nat → Outcome := fun k => .ended (if k = 1 then ⟨2, ["refused"]⟩ else ⟨0, ["good"]⟩)
    let runner := Runner.follow script
    (script 1).Fails ∧
      (Step.extendedText.move runner m (.filled .default ["good"]) 1).after.calls ≠ [] ∧
      ((m.moves runner .empty 0 [.fetch .default, .extendedText, .temperature]).map Move.seen).eraseIdx 1 =
        (m.moves (.follow (Outcome.skip script 1)) .empty 0 [.fetch .default, .temperature]).map
          Move.seen := by
  intro m script runner
  have hstate : m.stateAfter runner .empty 0 [.fetch .default] = (.filled .default ["good"], 1) := rfl
  have hcall : (Step.extendedText.move runner m (.filled .default ["good"]) 1).after.calls ≠ [] := by
    decide
  have hfails : (script 1).Fails := rfl
  have htrace := failed_step_leaves_no_trace script m .empty 0 [.fetch .default] [.temperature]
    .extendedText hstate hcall hfails
  exact ⟨hfails, hcall, (htrace.2.1 rfl).2⟩

end DriveHealth
