/-
# Monitors that share one gate

Monitors that run side by side go through one gate: a step that the kept output answers is done in one turn,
and a step that runs smartctl stands at the gate of its path, waits there, and runs inside. A schedule gives
the monitors turns in any order, so a step of one may begin, wait and end while steps of others are under
way.

However the turns fall, the steps end one after another, and what they led to is what a bay answers that is
asked the same steps in the order in which they ended (`Traffic.isHistory_after`). With a runner that
answers every call by the call alone, each monitor therefore goes through what it goes through by itself.

Key definitions: `Errand`, `Traffic`, `Traffic.turn`, `Traffic.IsHistory`.
Key theorems: `Traffic.isHistory_turn`, `Traffic.isHistory_after`, `monitors_do_not_interfere`.
-/
import DriveHealth.Gate
import DriveHealth.Proofs.Monitor.Interference

namespace DriveHealth

/-- What a monitor has still to do. -/
structure Errand where
  /-- The steps that have not ended, the present one first. -/
  todo : List Step
  /-- The number under which the present step stands at the gate. -/
  caller : Option Nat

/-- Monitors on their way through one gate. -/
structure Traffic (σ : Type) where
  bay : Bay σ
  gate : Gate.State
  /-- The errand of each monitor, in the order of their numbers. -/
  errands : List Errand
  /-- The steps that have ended, the first one first. -/
  ended : List (Nat × Step)
  /-- What they led to. -/
  records : List StepRecord

/-- A new caller, who has not asked for its lock yet. -/
def Gate.State.join (s : Gate.State) (path : String) : Gate.State :=
  { s with callers := s.callers ++ [⟨path, false, .outside, 0⟩] }

/-- The caller's body runs. -/
def Gate.State.isInside (s : Gate.State) (caller : Nat) : Bool := s.callers[caller]?.any Gate.Caller.isInside

namespace Traffic

variable {σ : Type}

/-- Nothing was asked yet; every monitor has its own steps before it. -/
def start (tasks : List (Monitor × List Step)) (memory : σ) : Traffic σ :=
  ⟨.start (tasks.map Prod.fst) memory, Gate.start [], tasks.map fun (_, steps) => ⟨steps, none⟩, [], []⟩

section Turns

variable (runner : Runner σ)

/-- The present step of monitor `i` ends. -/
def finish (t : Traffic σ) (i : Nat) (q : Step) (later : List Step) : Traffic σ :=
  match t.bay.step runner i q with
  | none => t
  | some (record, bay) =>
    { t with
      bay, errands := t.errands.set i ⟨later, none⟩, ended := t.ended ++ [(i, q)],
      records := t.records ++ [record] }

/-- Monitor `i` gets a turn. A step that the kept output answers ends at once. Any other step goes to the
gate of the monitor's path, and it ends when it leaves the gate; while it has to wait, a turn changes
nothing. -/
def turn (t : Traffic σ) (i : Nat) : Traffic σ :=
  match t.bay.slots[i]?, t.errands[i]? with
  | some slot, some ⟨q :: later, none⟩ =>
    if (q.held? slot.cache).isSome then t.finish runner i q later
    else
      { t with
        gate := t.gate.join slot.monitor.device.path,
        errands := t.errands.set i ⟨q :: later, some t.gate.callers.length⟩ }
  | some _, some ⟨q :: later, some caller⟩ =>
    match Gate.step? t.gate caller with
    | none => t
    | some gate =>
      if t.gate.isInside caller then { t with gate }.finish runner i q later else { t with gate }
  | _, _ => t

/-- What a schedule leads to, in which the monitors with these numbers get turns. -/
def after (t : Traffic σ) (schedule : List Nat) : Traffic σ := schedule.foldl (turn runner) t

end Turns

/-- The steps that monitor `i` has still before it. -/
def todo (errands : List Errand) (i : Nat) : List Step := (errands[i]?.map Errand.todo).getD []

/-- The steps that ended are, of each monitor, the first of its own, and a bay that is asked them in the
order in which they ended gives the same records and ends in the same state. -/
structure IsHistory (runner : Runner σ) (tasks : List (Monitor × List Step)) (memory : σ) (t : Traffic σ) :
    Prop where
  outcome : (Bay.start (tasks.map Prod.fst) memory).runSteps runner t.ended = (t.records, t.bay)
  order : ∀ i, ofMonitor i t.ended ++ todo t.errands i = (tasks[i]?.map Prod.snd).getD []

variable {runner : Runner σ} {tasks : List (Monitor × List Step)} {memory : σ} {t : Traffic σ} {i : Nat}
  {q : Step} {later : List Step} {caller : Option Nat}

theorem todo_set {errands : List Errand} {errand : Errand} (h : errands[i]? = some errand) (errand' : Errand)
    (j : Nat) : todo (errands.set i errand') j = if j = i then errand'.todo else todo errands j := by
  obtain ⟨hlt, -⟩ := List.getElem?_eq_some_iff.mp h
  unfold todo
  by_cases hj : j = i
  · subst hj
    rw [if_pos rfl, List.getElem?_set_self hlt]
    rfl
  · rw [if_neg hj, List.getElem?_set_ne (Ne.symm hj)]

theorem todo_eq (h : t.errands[i]? = some ⟨q :: later, caller⟩) : todo t.errands i = q :: later := by
  rw [todo, h]
  rfl

theorem isHistory_start (runner : Runner σ) (tasks : List (Monitor × List Step)) (memory : σ) :
    IsHistory runner tasks memory (start tasks memory) where
  outcome := rfl
  order i := by
    show todo (tasks.map _) i = _
    rw [todo, List.getElem?_map, Option.map_map]
    rfl

/-- A step that ends is the next one of the history. -/
theorem isHistory_finish (h : IsHistory runner tasks memory t)
    (hi : t.errands[i]? = some ⟨q :: later, caller⟩) : IsHistory runner tasks memory (t.finish runner i q later) := by
  unfold finish
  rcases hstep : t.bay.step runner i q with _ | ⟨record, bay⟩
  · exact h
  · refine ⟨?_, fun j => ?_⟩
    · show Bay.runSteps runner _ (t.ended ++ [(i, q)]) = (t.records ++ [record], bay)
      rw [Bay.runSteps_append, h.outcome, Bay.runSteps_of_some hstep]
      rfl
    · show ofMonitor j (t.ended ++ [(i, q)]) ++ todo (t.errands.set i _) j = _
      rw [← h.order j, ofMonitor_append, List.append_assoc, todo_set hi]
      by_cases hj : j = i
      · subst hj
        rw [if_pos rfl, todo_eq hi, ofMonitor_cons_self]
        rfl
      · rw [if_neg hj, ofMonitor_cons_of_ne (Ne.symm hj)]
        rfl

/-- The gate may change, and a step may go to it, while no step ends. -/
theorem isHistory_of_waiting (h : IsHistory runner tasks memory t)
    (hi : t.errands[i]? = some ⟨q :: later, caller⟩) (gate : Gate.State) (caller' : Option Nat) :
    IsHistory runner tasks memory { t with gate, errands := t.errands.set i ⟨q :: later, caller'⟩ } where
  outcome := h.outcome
  order j := by
    rw [← h.order j, todo_set hi]
    by_cases hj : j = i
    · rw [if_pos hj, hj, todo_eq hi]
    · rw [if_neg hj]

theorem isHistory_of_gate (h : IsHistory runner tasks memory t) (gate : Gate.State) :
    IsHistory runner tasks memory { t with gate } :=
  ⟨h.outcome, h.order⟩

theorem isHistory_turn (h : IsHistory runner tasks memory t) (i : Nat) :
    IsHistory runner tasks memory (t.turn runner i) := by
  unfold turn
  split
  · rename_i slot q later _ hi
    split
    · exact isHistory_finish h hi
    · exact isHistory_of_waiting h hi _ _
  · rename_i slot q later caller _ hi
    split
    · exact h
    · rename_i gate _
      split
      · exact isHistory_finish (isHistory_of_gate h gate) hi
      · exact isHistory_of_gate h gate
  · exact h

theorem isHistory_after (runner : Runner σ) (tasks : List (Monitor × List Step)) (memory : σ)
    (schedule : List Nat) : IsHistory runner tasks memory ((start tasks memory).after runner schedule) := by
  suffices hrun : ∀ t : Traffic σ, IsHistory runner tasks memory t →
      IsHistory runner tasks memory (t.after runner schedule) from hrun _ (isHistory_start runner tasks memory)
  induction schedule with
  | nil => exact fun _ h => h
  | cons i rest ih => exact fun t h => ih _ (isHistory_turn h i)

/-- The second of two monitors of one path may come to its end first; the first one waits for it. -/
example :
    let m : Monitor := ⟨⟨"/dev/sda", none, 0⟩, "smartctl", none⟩
    let runner : Runner Nat := fun _ n => (.ok ⟨0, []⟩, n + 1)
    let t := (start [(m, [.attributes]), (m, [.isEnabled, .isSupported])] 0).after runner
    (t [0, 1, 0, 1, 1, 0, 1]).ended = [(1, .isEnabled)] ∧
      (t [0, 1, 0, 1, 1, 0, 1, 0, 1, 0]).ended = [(1, .isEnabled), (1, .isSupported), (0, .attributes)] := by
  decide +kernel

end Traffic

/-- **Monitors do not interfere.** With a runner that answers every call by the call alone, every monitor of
a bay, whichever other monitors stand there, on its path or on others, shows what it shows when its own
steps are asked of it alone. So it does when all go through one gate side by side, for the steps that have
ended, which are the first of its own. And whatever the runner is, a step of one monitor leaves the output
that any other keeps as it was. -/
theorem monitors_do_not_interfere {σ : Type} (f : Call → Except Failure Run) (remember : Call → σ → σ)
    (memory : σ) :
    (∀ (monitors : List Monitor) (steps : List (Nat × Step)) (i : Nat) (m : Monitor), monitors[i]? = some m →
      AsAlone (Bay.start monitors memory) i steps
        ((Bay.start monitors memory).runSteps (.answering f remember) steps)
        (m.alone (.answering f remember) memory (ofMonitor i steps))) ∧
    (∀ (tasks : List (Monitor × List Step)) (schedule : List Nat) (i : Nat) (m : Monitor) (steps : List Step),
      tasks[i]? = some (m, steps) →
        let t := (Traffic.start tasks memory).after (.answering f remember) schedule
        ofMonitor i t.ended ++ Traffic.todo t.errands i = steps ∧
          AsAlone (Bay.start (tasks.map Prod.fst) memory) i t.ended (t.records, t.bay)
            (m.alone (.answering f remember) memory (ofMonitor i t.ended))) ∧
    (∀ (τ : Type) (runner : Runner τ) (b b' : Bay τ) (j : Nat) (q : Step) (record : StepRecord),
      b.step runner j q = some (record, b') → ∀ i, j ≠ i → b'.slots[i]? = b.slots[i]?) := by
  refine ⟨fun monitors steps i m hm => asAlone_runSteps f remember remember memory memory hm steps,
    fun tasks schedule i m steps hi => ?_, fun τ runner b b' j q record hstep i hne => Bay.slot_step_of_ne hne hstep⟩
  have hhistory := Traffic.isHistory_after (.answering f remember) tasks memory schedule
  refine ⟨?_, ?_⟩
  · rw [hhistory.order i, hi]
    rfl
  · rw [← hhistory.outcome]
    have hm : (tasks.map Prod.fst)[i]? = some m := by rw [List.getElem?_map, hi, Option.map_some]
    exact asAlone_runSteps f remember remember memory memory hm _

end DriveHealth
