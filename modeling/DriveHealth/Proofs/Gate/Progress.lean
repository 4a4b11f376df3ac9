/-
# Every caller gets through the gate

A caller has three steps to go, and a step of anybody takes one off the sum (`stepsToGo`). While
somebody is not gone somebody can move, since a caller that is kept waiting is kept by another one that
is inside and can leave. So a round of turns in which everybody comes up moves somebody, and after as
many rounds as there are steps all callers are gone, however their bodies end.

Key definitions: `Gate.Phase.stepsToGo`, `Gate.stepsToGo`, `Gate.IsKeyedLock`.
Key theorems: `Gate.stepsToGo_step`, `Gate.exists_step`, `Gate.isGone_after_fairSchedule`,
`Gate.gate_is_keyed_lock`.
-/
import DriveHealth.Proofs.Gate.Exclusion
import Mathlib.Algebra.Order.Ring.Nat
import Mathlib.Tactic.Set

namespace DriveHealth.Gate

/-! ### Steps to go -/

/-- The steps that a caller has before it who stands here. -/
def Phase.stepsToGo : Phase → Nat
  | outside => 3
  | waiting _ => 2
  | inside _ => 1
  | gone _ => 0

/-- The steps that all callers together have before them. -/
def stepsToGo (s : State) : Nat := (s.callers.map fun c => c.phase.stepsToGo).sum

variable {s s' : State} {callers : List Caller} {c : Caller} {i : Nat} {schedule : List Nat}

theorem isGone_iff : c.IsGone ↔ c.phase.stepsToGo = 0 := by
  unfold Caller.IsGone
  cases c.phase <;> simp [Phase.stepsToGo]

theorem stepsToGo_eq_zero : stepsToGo s = 0 ↔ ∀ c ∈ s.callers, c.IsGone := by
  unfold stepsToGo
  rw [List.sum_eq_zero_iff_forall_eq_nat]
  simp only [List.forall_mem_map, isGone_iff]

theorem sum_stepsToGo_set (hc : callers[i]? = some c) (c' : Caller) :
    ((callers.set i c').map fun c => c.phase.stepsToGo).sum + c.phase.stepsToGo =
      (callers.map fun c => c.phase.stepsToGo).sum + c'.phase.stepsToGo := by
  induction callers generalizing i with
  | nil => cases hc
  | cons d rest ih =>
    cases i with
    | zero =>
      rw [List.getElem?_cons_zero, Option.some.injEq] at hc
      subst hc
      simp only [List.set_cons_zero, List.map_cons, List.sum_cons]
      omega
    | succ i =>
      have hrest := ih hc
      simp only [List.set_cons_succ, List.map_cons, List.sum_cons]
      omega

/-- A caller who moves on takes from the sum what it takes from its own steps. -/
theorem stepsToGo_set (hc : s.callers[i]? = some c) (locks : List Lock) (c' : Caller) :
    stepsToGo ⟨locks, s.callers.set i c'⟩ + c.phase.stepsToGo = stepsToGo s + c'.phase.stepsToGo :=
  sum_stepsToGo_set hc c'

/-- A step takes one off the sum. -/
theorem stepsToGo_step (hstep : step? s i = some s') : stepsToGo s' + 1 = stepsToGo s := by
  obtain ⟨c, hc, hmove⟩ := step?_cases hstep
  rcases hmove with ⟨hp, lock, locks, -, rfl⟩ | ⟨lock, hp, -, rfl⟩ | ⟨lock, hp, rfl⟩
  · have hsum := stepsToGo_set hc locks { c with phase := .waiting lock }
    rw [hp] at hsum
    exact Nat.add_right_cancel (m := 2) hsum
  · have hsum := stepsToGo_set hc (setHolder s.locks lock (some i))
      { c with phase := .inside lock, runs := c.runs + 1 }
    rw [hp] at hsum
    exact Nat.add_right_cancel (m := 1) hsum
  · have hsum := stepsToGo_set hc (setHolder s.locks lock none) { c with phase := .gone c.panics }
    rw [hp] at hsum
    exact hsum

theorem stepsToGo_turn_le (s : State) (i : Nat) : stepsToGo (turn s i) ≤ stepsToGo s := by
  rcases turn_cases s i with heq | hstep
  · exact Nat.le_of_eq (congrArg stepsToGo heq)
  · have hless := stepsToGo_step hstep
    omega

theorem stepsToGo_after_le (s : State) (schedule : List Nat) : stepsToGo (after s schedule) ≤ stepsToGo s := by
  induction schedule generalizing s with
  | nil => exact Nat.le_refl _
  | cons i rest ih => exact Nat.le_trans (ih (turn s i)) (stepsToGo_turn_le s i)

/-! ### Somebody can move -/

/-- While somebody is not gone, a caller can move: this one, or the one that keeps it waiting. -/
theorem exists_step (h : Sound s) (hleft : ∃ c ∈ s.callers, ¬ c.IsGone) :
    ∃ i < s.callers.length, ∃ s', step? s i = some s' := by
  obtain ⟨c, hmem, hgone⟩ := hleft
  obtain ⟨i, hi, hget⟩ := List.mem_iff_getElem.mp hmem
  have hc : s.callers[i]? = some c := by rw [List.getElem?_eq_getElem hi, hget]
  rcases hstep : step? s i with _ | s'
  · obtain ⟨-, j, d, -, hd, -, hinside⟩ := (step?_eq_none_iff h hc hgone).mp hstep
    obtain ⟨lock, hp⟩ := isInside_iff.mp hinside
    obtain ⟨hj, -⟩ := List.getElem?_eq_some_iff.mp hd
    have hnot : ¬ step? s j = none := by
      rw [step?_eq_none hd]
      unfold Caller.IsGone
      rw [hp]
      simp
    exact ⟨j, hj, Option.ne_none_iff_exists'.mp hnot⟩
  · exact ⟨i, hi, s', hstep⟩

/-! ### Rounds -/

/-- Turns among which one is of a caller that can move take steps off. -/
theorem stepsToGo_after_lt (hstep : step? s i = some s') (hi : i ∈ schedule) :
    stepsToGo (after s schedule) < stepsToGo s := by
  induction schedule with
  | nil => cases hi
  | cons j rest ih =>
    have hrest := stepsToGo_after_le (turn s j) rest
    show stepsToGo (after (turn s j) rest) < stepsToGo s
    rcases turn_cases s j with heq | hmove
    · have hne : i ≠ j := by
        rintro rfl
        rw [turn, hstep, Option.getD_some] at heq
        subst heq
        have hless := stepsToGo_step hstep
        omega
      rw [heq]
      exact ih ((List.mem_cons.mp hi).resolve_left hne)
    · have hless := stepsToGo_step hmove
      omega

theorem length_callers_after (s : State) (schedule : List Nat) :
    (after s schedule).callers.length = s.callers.length := by
  have hlength := congrArg List.length (requests_after s schedule)
  rwa [requests, requests, List.length_map, List.length_map] at hlength

/-- Each round in which all callers come up takes a step off, as long as one is left. -/
theorem stepsToGo_after_rounds (h : Sound s) (rounds : Nat) :
    stepsToGo (after s (List.replicate rounds (List.range s.callers.length)).flatten) ≤
      stepsToGo s - rounds := by
  induction rounds generalizing s with
  | zero => exact Nat.le_refl _
  | succ rounds ih =>
    rw [List.replicate_succ, List.flatten_cons, after_append]
    set t := after s (List.range s.callers.length) with ht
    have hlength : t.callers.length = s.callers.length := length_callers_after s _
    have hlater : stepsToGo (after t (List.replicate rounds (List.range s.callers.length)).flatten) ≤
        stepsToGo t - rounds := by
      rw [← hlength]
      exact ih (sound_after h _)
    by_cases hgone : ∀ c ∈ s.callers, c.IsGone
    · have hzero : stepsToGo s = 0 := stepsToGo_eq_zero.mpr hgone
      have hle : stepsToGo t ≤ stepsToGo s := stepsToGo_after_le s _
      omega
    · obtain ⟨i, hi, s', hstep⟩ := exists_step h (by simpa using hgone)
      have hlt : stepsToGo t < stepsToGo s := stepsToGo_after_lt hstep (List.mem_range.mpr hi)
      omega

theorem stepsToGo_le (s : State) : stepsToGo s ≤ 3 * s.callers.length := by
  unfold stepsToGo
  induction s.callers with
  | nil => exact Nat.le_refl _
  | cons c rest ih =>
    have hc : c.phase.stepsToGo ≤ 3 := by cases c.phase <;> simp [Phase.stepsToGo]
    simp only [List.map_cons, List.sum_cons, List.length_cons]
    omega

/-- After the fair schedule all callers are gone. -/
theorem isGone_after_fairSchedule (h : Sound s) :
    ∀ c ∈ (after s (fairSchedule s.callers.length)).callers, c.IsGone := by
  have hrounds := stepsToGo_after_rounds h (3 * s.callers.length)
  have hle := stepsToGo_le s
  refine stepsToGo_eq_zero.mp ?_
  unfold fairSchedule
  omega

/-! ### Completed schedules -/

theorem runs_eq_one_of_isGone (h : Sound s) (hc : c ∈ s.callers) (hgone : c.IsGone) : c.runs = 1 := by
  obtain ⟨panicked, hp⟩ := hgone
  rw [h.runs c hc, hp, Phase.runs]

/-! ### The gate as a whole -/

/-- What makes a state in which these callers are at the gate one of a keyed lock. -/
structure IsKeyedLock (callers : List (String × Bool)) (s : State) : Prop where
  /-- Each caller keeps its path, and whether its body panics. -/
  requests : s.callers.map (fun c => (c.path, c.panics)) = callers
  /-- At most one body of a path runs. -/
  exclusive : ∀ path, crowd s path ≤ 1
  /-- A path's lock stays its lock. -/
  kept : ∀ path lock, IsLockOf s.locks path lock → ∀ later, IsLockOf (after s later).locks path lock
  /-- A path has one lock, and no other path has it. -/
  unshared : ∀ path lock, IsLockOf s.locks path lock → ∀ path' lock', IsLockOf s.locks path' lock' →
    (path' = path ↔ lock' = lock)
  /-- A caller waits for its path's lock, and it is this lock that it goes inside. -/
  own : ∀ c ∈ s.callers, ∀ lock, c.phase = .waiting lock ∨ c.phase = .inside lock → IsLockOf s.locks c.path lock
  /-- A caller that is not gone cannot move just when it waits and another body of its path runs. -/
  blocked : ∀ i c, s.callers[i]? = some c → ¬ c.IsGone → (step? s i = none ↔ (∃ lock, c.phase = .waiting lock) ∧
    ∃ j d, j ≠ i ∧ s.callers[j]? = some d ∧ d.path = c.path ∧ d.isInside = true)
  /-- While somebody is not gone somebody can move. -/
  live : (∃ c ∈ s.callers, ¬ c.IsGone) → ∃ i s', step? s i = some s'
  /-- When all are gone each body was started once. -/
  once : (∀ c ∈ s.callers, c.IsGone) → ∀ c ∈ s.callers, c.runs = 1
  /-- Fair turns lead to where all are gone. -/
  finishes : ∀ c ∈ (after s (fairSchedule callers.length)).callers, c.IsGone

/-- **The gate is a keyed lock.** Whoever the callers are, whichever of their bodies panic and whatever turns
they got, the state is one of a keyed lock. -/
theorem gate_is_keyed_lock (callers : List (String × Bool)) (schedule : List Nat) :
    IsKeyedLock callers (after (start callers) schedule) := by
  set s := after (start callers) schedule with hs
  have h : Sound s := sound_after (sound_start callers) schedule
  have hrequests : requests s = callers := by
    rw [hs, requests_after, requests_start]
  have hlength : s.callers.length = callers.length := by
    rw [← hrequests, requests, List.length_map]
  exact {
    requests := hrequests
    exclusive := crowd_le_one h
    kept := fun path lock hlock later => isLockOf_of_prefix (names_prefix_after s later) hlock
    unshared := fun path lock hlock path' lock' hlock' => isLockOf_unique h.nodup hlock hlock'
    own := fun c hc lock hp => h.own c hc lock (by rcases hp with hp | hp <;> rw [hp, Phase.lock?])
    blocked := fun i c hc hgone => step?_eq_none_iff h hc hgone
    live := fun hleft => by
      obtain ⟨i, -, s', hstep⟩ := exists_step h hleft
      exact ⟨i, s', hstep⟩
    once := fun hall c hc => runs_eq_one_of_isGone h hc (hall c hc)
    finishes := by
      rw [← hlength]
      exact isGone_after_fairSchedule h }

end DriveHealth.Gate
