/-
# Where answers come from

What a monitor keeps is the output of one call: the last one that was accepted, unless a refresh began
after it. Every answer is read from these lines, so that nothing a failed run printed can reach one.
The power mode alone answers without lines, by a word of its own.

Key definitions: `LastAccepted`, `KeepsLastAccepted`, `Runner.reword`.
Key theorems: `keepsLastAccepted_moves`, `moves_reword`, `answers_from_last_accepted`.
-/
import DriveHealth.Proofs.Monitor.Moves
import DriveHealth.Proofs.Sequence

namespace DriveHealth

variable {σ : Type} {runner : Runner σ} {m : Monitor} {kind : OutputKind} {lines : List String}
  {moves : List (Move σ)} {mv : Move σ}

/-- One of the moves made a call for `kind` that was accepted with `lines`; after it there was no other
accepted call and no refresh. -/
def LastAccepted (runner : Runner σ) (m : Monitor) (moves : List (Move σ)) (kind : OutputKind)
    (lines : List String) : Prop :=
  ∃ before mv later, moves = before ++ mv :: later ∧ mv.accepted? runner = some (kind, lines) ∧
    (∃ nocheck typeHint, mv.after.calls = [m.callFor kind nocheck typeHint]) ∧
    ∀ x ∈ later, x.step.isRefresh = false ∧ x.accepted? runner = none

theorem not_lastAccepted_nil : ¬ LastAccepted runner m [] kind lines := by
  rintro ⟨before, mv, later, h, -⟩
  simp at h

/-- A move that accepts nothing leaves the last accepted call as it was, unless it is a refresh. -/
theorem lastAccepted_concat_of_none (h : mv.accepted? runner = none) :
    LastAccepted runner m (moves ++ [mv]) kind lines ↔
      mv.step.isRefresh = false ∧ LastAccepted runner m moves kind lines := by
  constructor
  · rintro ⟨before, x, later, heq, hx, hcall, hlater⟩
    rcases cut_of_concat heq with ⟨-, rfl⟩ | ⟨rest, rfl, rfl⟩
    · rw [h] at hx
      cases hx
    · refine ⟨(hlater mv (by simp)).1, before, x, rest, rfl, hx, hcall, fun y hy => ?_⟩
      exact hlater y (List.mem_append_left _ hy)
  · rintro ⟨hrefresh, before, x, later, rfl, hx, hcall, hlater⟩
    refine ⟨before, x, later ++ [mv], by simp, hx, hcall, fun y hy => ?_⟩
    rcases List.mem_append.mp hy with hy | hy
    · exact hlater y hy
    · rw [List.mem_singleton.mp hy]
      exact ⟨hrefresh, h⟩

/-- A move that accepts a run makes it the last accepted one. -/
theorem lastAccepted_concat_of_some {kind' : OutputKind} {lines' : List String}
    (h : mv.accepted? runner = some (kind', lines'))
    (hcall : ∃ nocheck typeHint, mv.after.calls = [m.callFor kind' nocheck typeHint]) :
    LastAccepted runner m (moves ++ [mv]) kind lines ↔ kind = kind' ∧ lines = lines' := by
  constructor
  · rintro ⟨before, x, later, heq, hx, -, hlater⟩
    rcases cut_of_concat heq with ⟨-, rfl⟩ | ⟨rest, rfl, rfl⟩
    · rw [h] at hx
      cases hx
      exact ⟨rfl, rfl⟩
    · rw [(hlater mv (by simp)).2] at h
      cases h
  · rintro ⟨rfl, rfl⟩
    exact ⟨moves, mv, [], rfl, h, hcall, by simp⟩

/-! ### What is kept -/

/-- What is kept after the moves is the output of their last accepted call, nothing without one. -/
def KeepsLastAccepted (runner : Runner σ) (m : Monitor) (moves : List (Move σ)) (cache : Cache) : Prop :=
  ∀ kind lines, cache = .filled kind lines ↔ LastAccepted runner m moves kind lines

variable {q : Step} {cache : Cache} {memory : σ} {run : Run}

theorem keepsLastAccepted_nil : KeepsLastAccepted runner m [] .empty :=
  fun _ _ => iff_of_false (by simp) not_lastAccepted_nil

theorem lastAccepted_concat_of_accepted (hs : q.held? cache = none)
    (hr : (q.call m).judge (runner (q.call m) memory).1 = .ok run) :
    LastAccepted runner m (moves ++ [q.move runner m cache memory]) kind lines ↔
      kind = q.kind ∧ lines = run.lines := by
  refine lastAccepted_concat_of_some (Move.accepted?_of_accepted hs hr) ?_
  obtain ⟨nocheck, typeHint, hcall⟩ := Step.exists_call_eq m q
  exact ⟨nocheck, typeHint, by rw [Step.move_of_accepted hs hr, ← hcall]⟩

theorem keepsLastAccepted_concat (h : KeepsLastAccepted runner m moves cache) :
    KeepsLastAccepted runner m (moves ++ [q.move runner m cache memory])
      (q.move runner m cache memory).after.cache := by
  intro kind lines
  rcases Step.move_cases runner m q cache memory with ⟨held, hs⟩ | ⟨run, hs, hr⟩ | ⟨e, hs, hr⟩
  · rw [lastAccepted_concat_of_none (Move.accepted?_of_held hs), ← h, Step.move_of_held hs]
    exact (and_iff_right (Step.isRefresh_of_held hs)).symm
  · rw [lastAccepted_concat_of_accepted hs hr, Step.move_of_accepted hs hr, Cache.filled.injEq,
      @eq_comm _ kind, @eq_comm _ lines]
  · rw [lastAccepted_concat_of_none (Move.accepted?_of_failed hs hr), ← h, Step.move_of_failed hs hr]
    show q.afterFailure cache = _ ↔ q.isRefresh = false ∧ _
    rw [Step.afterFailure]
    cases q.isRefresh <;> simp

theorem keepsLastAccepted_moves (h : KeepsLastAccepted runner m moves cache) (steps : List Step) :
    KeepsLastAccepted runner m (moves ++ m.moves runner cache memory steps)
      (m.stateAfter runner cache memory steps).1 := by
  induction steps generalizing moves cache memory with
  | nil => rwa [Monitor.moves, List.append_nil]
  | cons q rest ih =>
    rw [Monitor.moves, List.append_cons]
    exact ih (keepsLastAccepted_concat h)

/-! ### What failed runs print -/

/-- The runner whose fatal runs print something else and whose failures say something else. -/
def Runner.reword (print : List String → List String) (say : Failure → Failure) (runner : Runner σ) :
    Runner σ := fun c memory =>
  match runner c memory with
  | (.ok run, memory) => (.ok (if isFatal run.status then ⟨run.status, print run.lines⟩ else run), memory)
  | (.error e, memory) => (.error (say e), memory)

section Reword

variable {print : List String → List String} {say : Failure → Failure} {c : Call} {e : Failure}

theorem reword_memory : (Runner.reword print say runner c memory).2 = (runner c memory).2 := by
  rw [Runner.reword]
  split <;> simp [*]

theorem judge_reword_of_ok (h : c.judge (runner c memory).1 = .ok run) :
    c.judge (Runner.reword print say runner c memory).1 = .ok run := by
  obtain ⟨hr, hf⟩ := Call.judge_eq_ok.mp h
  rw [Runner.reword]
  split
  · rename_i run' memory' heq
    rw [heq] at hr
    cases hr
    exact Call.judge_eq_ok.mpr ⟨by simp [hf], hf⟩
  · rename_i heq
    rw [heq] at hr
    cases hr

theorem judge_reword_of_error (print : List String → List String) (say : Failure → Failure)
    (h : c.judge (runner c memory).1 = .error e) :
    ∃ e', c.judge (Runner.reword print say runner c memory).1 = .error e' := by
  rw [Runner.reword]
  split
  · rename_i run' memory' heq
    rw [heq, Call.judge] at h
    split at h
    · rename_i hf
      exact ⟨_, by rw [if_pos hf, Call.judge, if_pos hf]⟩
    · cases h
  · exact ⟨_, rfl⟩

/-- What a failed run prints or says changes neither the answers that are given nor what is kept. -/
theorem moves_reword (steps : List Step) :
    ((m.moves (Runner.reword print say runner) cache memory steps).map fun mv =>
        (mv.step, mv.answer.toOption, mv.after.cache)) =
      (m.moves runner cache memory steps).map fun mv => (mv.step, mv.answer.toOption, mv.after.cache) := by
  induction steps generalizing cache memory with
  | nil => rfl
  | cons q rest ih =>
    simp only [Monitor.moves, List.map_cons]
    rcases Step.move_cases runner m q cache memory with ⟨held, hs⟩ | ⟨run, hs, hr⟩ | ⟨e, hs, hr⟩
    · rw [Step.move_of_held hs, Step.move_of_held hs]
      exact congrArg _ ih
    · rw [Step.move_of_accepted hs hr, Step.move_of_accepted hs (judge_reword_of_ok hr), reword_memory]
      exact congrArg _ ih
    · obtain ⟨e', hr'⟩ := judge_reword_of_error print say hr
      rw [Step.move_of_failed hs hr, Step.move_of_failed hs hr', reword_memory]
      refine congr (congrArg _ ?_) ih
      cases q <;> rfl

end Reword

/-! ### Answers -/

/-- **Every answer is read from the last accepted output.** After any steps, what is kept is the output
of the last call that was accepted, if no refresh began after it, and it is empty without such a call. A
next step that gives an answer reads it from just these lines, counting a call of its own; the power
mode may also give its word for a failed call. All that is kept stays all unless a refresh is asked for,
and what failed runs print or say reaches no answer. -/
theorem answers_from_last_accepted (runner : Runner σ) (m : Monitor) (memory : σ) (steps : List Step) :
    let moves := m.moves runner .empty memory steps
    let state := m.stateAfter runner .empty memory steps
    (∀ kind lines, state.1 = .filled kind lines ↔ LastAccepted runner m moves kind lines) ∧
    (∀ q : Step, let mv := q.move runner m state.1 state.2
      (∀ a, mv.answer = .ok a →
        (∃ kind lines, LastAccepted runner m (moves ++ [mv]) kind lines ∧ a = q.answer m lines) ∨
        (q = .powerMode ∧ a = .text "ERROR" ∧ mv.after.calls = [q.call m] ∧ mv.accepted? runner = none)) ∧
      (q.isRefresh = false → state.1.kind? = some .all → mv.after.cache.kind? = some .all)) ∧
    ∀ (print : List String → List String) (say : Failure → Failure),
      ((m.moves (Runner.reword print say runner) .empty memory steps).map fun mv =>
          (mv.step, mv.answer.toOption, mv.after.cache)) =
        moves.map fun mv => (mv.step, mv.answer.toOption, mv.after.cache) := by
  intro moves state
  have hkept : KeepsLastAccepted runner m moves state.1 :=
    keepsLastAccepted_moves keepsLastAccepted_nil steps
  refine ⟨hkept, fun q => ⟨fun a ha => ?_, fun hq hall => ?_⟩, fun print say => moves_reword steps⟩
  · rcases Step.move_cases runner m q state.1 state.2 with ⟨lines, hs⟩ | ⟨run, hs, hr⟩ | ⟨e, hs, hr⟩
    · obtain ⟨kind, hcache⟩ := Step.exists_filled_of_held hs
      left
      refine ⟨kind, lines, ?_, ?_⟩
      · rw [lastAccepted_concat_of_none (Move.accepted?_of_held hs)]
        exact ⟨Step.isRefresh_of_held hs, (hkept kind lines).mp hcache⟩
      · rw [Step.move_of_held hs] at ha
        cases ha
        rfl
    · left
      refine ⟨q.kind, run.lines, (lastAccepted_concat_of_accepted hs hr).mpr ⟨rfl, rfl⟩, ?_⟩
      rw [Step.move_of_accepted hs hr] at ha
      cases ha
      rfl
    · right
      have hnone := Move.accepted?_of_failed hs hr
      rw [Step.move_of_failed hs hr] at ha hnone ⊢
      cases q with
      | powerMode =>
        cases ha
        exact ⟨rfl, rfl, rfl, hnone⟩
      | _ => cases ha
  · rcases hc : state.1 with _ | ⟨kind, lines⟩
    · rw [hc] at hall
      cases hall
    · rw [hc] at hall
      cases hall
      have hs : q.held? (.filled .all lines) = some lines := by
        simp [Step.held?, hq, Cache.lookup, OutputKind.covers]
      rw [Step.move_of_held hs]
      rfl

end DriveHealth
