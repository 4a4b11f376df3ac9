/-
# Monitors among others

A bay asks the steps of several monitors in any order. A step touches the slot of its own monitor alone,
and the calls that it makes carry its number. So what a monitor does among others can be read off by its
number, and where the runner's answer depends on the call alone, it is what the monitor does by itself:
the others' steps change what the runner remembers, and nothing that this monitor ever sees.

Key definitions: `ofMonitor`, `Bay.recordsOf`, `StepRecord.own`, `Monitor.alone`, `AsAlone`.
Key theorems: `Bay.slot_step_of_ne`, `Bay.own_runSteps`, `asAlone_runSteps`.
-/
import DriveHealth.Proofs.Monitor.Moves

namespace DriveHealth

/-! ### What belongs to one monitor -/

/-- Of things that carry the numbers of monitors, those of monitor `i`. -/
def ofMonitor {α : Type} (i : Nat) (numbered : List (Nat × α)) : List α :=
  (numbered.filter fun p => p.1 = i).map Prod.snd

section OfMonitor

variable {α : Type} {i j : Nat}

theorem ofMonitor_cons_self (i : Nat) (a : α) (rest : List (Nat × α)) :
    ofMonitor i ((i, a) :: rest) = a :: ofMonitor i rest := by
  simp [ofMonitor]

theorem ofMonitor_cons_of_ne (h : j ≠ i) (a : α) (rest : List (Nat × α)) :
    ofMonitor i ((j, a) :: rest) = ofMonitor i rest := by
  simp [ofMonitor, h]

theorem ofMonitor_append (i : Nat) (first later : List (Nat × α)) :
    ofMonitor i (first ++ later) = ofMonitor i first ++ ofMonitor i later := by
  simp [ofMonitor]

theorem ofMonitor_numbered (i : Nat) (xs : List α) : ofMonitor i (xs.map fun a => (i, a)) = xs := by
  induction xs with
  | nil => rfl
  | cons a rest ih => rw [List.map_cons, ofMonitor_cons_self, ih]

theorem ofMonitor_numbered_of_ne (h : j ≠ i) (xs : List α) :
    ofMonitor i (xs.map fun a => (j, a)) = [] := by
  induction xs with
  | nil => rfl
  | cons a rest ih => rw [List.map_cons, ofMonitor_cons_of_ne h, ih]

end OfMonitor

/-- What a record says of its own monitor: all but the number of all calls. -/
def StepRecord.own (r : StepRecord) : Except Failure Answer × Option OutputKind × List Event :=
  (r.answer, r.cached, r.events)

/-- What a move says of its monitor, as a record does. -/
def Move.own {σ : Type} (mv : Move σ) : Except Failure Answer × Option OutputKind × List Event :=
  (mv.answer, mv.after.cache.kind?, mv.after.events)

namespace Bay

variable {σ τ : Type} {runner : Runner σ} {runner' : Runner τ} {b b' : Bay σ} {i j : Nat} {m : Monitor}
  {cache : Cache} {q : Step} {record : StepRecord}

/-- Of the records that the steps left, those of monitor `i`. A step leaves one if its monitor exists. -/
def recordsOf (b : Bay σ) (i : Nat) (steps : List (Nat × Step)) (records : List StepRecord) : List StepRecord :=
  ofMonitor i (((steps.map Prod.fst).filter fun j => j < b.slots.length).zip records)

/-! ### One step -/

/-- A step of monitor `i` is a move of that monitor, whose calls are numbered. -/
theorem step_of_slot (h : b.slots[i]? = some ⟨m, cache⟩) (q : Step) :
    b.step runner i q =
      let mv := q.move runner m cache b.memory
      let made := b.calls ++ mv.after.calls.map fun c => (i, c)
      some (⟨mv.answer, mv.after.cache.kind?, made.length, mv.after.events⟩,
        ⟨b.slots.set i ⟨m, mv.after.cache⟩, mv.after.memory, made⟩) := by
  rw [step, h]
  rfl

theorem exists_slot_of_step (h : b.step runner i q = some (record, b')) :
    ∃ m cache, b.slots[i]? = some ⟨m, cache⟩ := by
  rcases hs : b.slots[i]? with _ | ⟨m, cache⟩
  · rw [step, hs] at h
    cases h
  · exact ⟨m, cache, rfl⟩

/-- A step of another monitor leaves what monitor `i` keeps as it was, whatever the runner is. -/
theorem slot_step_of_ne (hne : j ≠ i) (h : b.step runner j q = some (record, b')) :
    b'.slots[i]? = b.slots[i]? := by
  obtain ⟨m, cache, hs⟩ := exists_slot_of_step h
  rw [step_of_slot hs] at h
  cases h
  exact List.getElem?_set_ne hne

theorem length_slots_step (h : b.step runner j q = some (record, b')) : b'.slots.length = b.slots.length := by
  obtain ⟨m, cache, hs⟩ := exists_slot_of_step h
  rw [step_of_slot hs] at h
  cases h
  exact List.length_set

theorem ofMonitor_calls_step_of_ne (hne : j ≠ i) (h : b.step runner j q = some (record, b')) :
    ofMonitor i b'.calls = ofMonitor i b.calls := by
  obtain ⟨m, cache, hs⟩ := exists_slot_of_step h
  rw [step_of_slot hs] at h
  cases h
  rw [ofMonitor_append, ofMonitor_numbered_of_ne hne, List.append_nil]

/-- There is a slot for every step that leaves a record, and none for the others. -/
theorem step_eq_none_iff : b.step runner j q = none ↔ b.slots.length ≤ j := by
  rw [← List.getElem?_eq_none_iff]
  constructor
  · intro h
    rcases hs : b.slots[j]? with _ | ⟨m, cache⟩
    · rfl
    · rw [step_of_slot hs] at h
      cases h
  · intro hs
    rw [step, hs]

/-! ### Runs -/

theorem runSteps_of_none (h : b.step runner j q = none) (rest : List (Nat × Step)) :
    b.runSteps runner ((j, q) :: rest) = b.runSteps runner rest := by
  rw [runSteps, h]

theorem runSteps_of_some (h : b.step runner j q = some (record, b')) (rest : List (Nat × Step)) :
    b.runSteps runner ((j, q) :: rest) =
      (record :: (b'.runSteps runner rest).1, (b'.runSteps runner rest).2) := by
  rw [runSteps, h]

theorem runSteps_append (b : Bay σ) (first later : List (Nat × Step)) :
    b.runSteps runner (first ++ later) =
      ((b.runSteps runner first).1 ++ ((b.runSteps runner first).2.runSteps runner later).1,
        ((b.runSteps runner first).2.runSteps runner later).2) := by
  induction first generalizing b with
  | nil => rfl
  | cons p rest ih =>
    obtain ⟨j, q⟩ := p
    rw [List.cons_append]
    rcases hstep : b.step runner j q with _ | ⟨record, b'⟩
    · rw [runSteps_of_none hstep, runSteps_of_none hstep, ih]
    · rw [runSteps_of_some hstep, runSteps_of_some hstep, ih, List.cons_append]

theorem recordsOf_of_none (h : b.step runner j q = none) (rest : List (Nat × Step)) (records : List StepRecord) :
    b.recordsOf i ((j, q) :: rest) records = b.recordsOf i rest records := by
  have hle : ¬ j < b.slots.length := Nat.not_lt.mpr (step_eq_none_iff.mp h)
  rw [recordsOf, List.map_cons, List.filter_cons_of_neg (by simpa using hle)]
  rfl

theorem recordsOf_of_some (h : b.step runner j q = some (record, b')) (rest : List (Nat × Step))
    (records : List StepRecord) :
    b.recordsOf i ((j, q) :: rest) (record :: records) =
      if j = i then record :: b'.recordsOf i rest records else b'.recordsOf i rest records := by
  have hlt : j < b.slots.length := by
    refine Nat.lt_of_not_le fun hle => ?_
    rw [step_eq_none_iff.mpr hle] at h
    cases h
  rw [recordsOf, List.map_cons, List.filter_cons_of_pos (by simpa using hlt), List.zip_cons_cons]
  split
  · rename_i hj
    subst hj
    rw [ofMonitor_cons_self, recordsOf, length_slots_step h]
  · rename_i hj
    rw [ofMonitor_cons_of_ne hj, recordsOf, length_slots_step h]

/-- **A monitor among others goes through its own moves.** If two runners answer every call alike, whatever
they remember, then what monitor `i` shows in a bay with the one is what its moves with the other show. -/
theorem own_runSteps (runner : Runner σ) (runner' : Runner τ)
    (hanswer : ∀ c a a', (runner c a).1 = (runner' c a').1) (hslot : b.slots[i]? = some ⟨m, cache⟩) (memory : τ)
    (steps : List (Nat × Step)) :
    let outcome := b.runSteps runner steps
    let moves := m.moves runner' cache memory (ofMonitor i steps)
    (b.recordsOf i steps outcome.1).map StepRecord.own = moves.map Move.own ∧
      ofMonitor i outcome.2.calls = ofMonitor i b.calls ++ moves.flatMap (fun mv => mv.after.calls) ∧
      outcome.2.slots[i]? = some ⟨m, (m.stateAfter runner' cache memory (ofMonitor i steps)).1⟩ := by
  induction steps generalizing b cache memory with
  | nil => exact ⟨rfl, by simp [runSteps, ofMonitor, Monitor.moves], hslot⟩
  | cons p rest ih =>
    obtain ⟨j, q⟩ := p
    by_cases hj : j = i
    · -- its own step: the two runners show the same move
      subst hj
      set mv := q.move runner' m cache memory with hmv
      have hseen : (q.move runner m cache b.memory).seen = mv.seen :=
        Step.seen_move_congr fun _ => hanswer _ _ _
      have hown : (q.move runner m cache b.memory).own = mv.own := congrArg Move.own hseen
      have hcalls : (q.move runner m cache b.memory).after.calls = mv.after.calls :=
        congrArg (fun x => x.after.calls) hseen
      have hcache : (q.move runner m cache b.memory).after.cache = mv.after.cache :=
        congrArg (fun x => x.after.cache) hseen
      have hstep : b.step runner j q = _ := step_of_slot hslot q
      simp only [hcalls, hcache] at hstep
      obtain ⟨hlt, -⟩ := List.getElem?_eq_some_iff.mp hslot
      obtain ⟨hrecords, hmade, hkept⟩ :=
        ih (b := ⟨b.slots.set j ⟨m, mv.after.cache⟩, (q.move runner m cache b.memory).after.memory,
          b.calls ++ mv.after.calls.map fun c => (j, c)⟩)
          (List.getElem?_set_self hlt) mv.after.memory
      rw [ofMonitor_cons_self, runSteps_of_some hstep]
      simp only [recordsOf_of_some hstep, Monitor.moves, Monitor.stateAfter, ← hmv, ↓reduceIte,
        List.map_cons, List.flatMap_cons]
      refine ⟨congr (congrArg _ ?_) hrecords, ?_, hkept⟩
      · rw [← hown, Move.own, hcache]
        rfl
      · rw [hmade, ofMonitor_append, ofMonitor_numbered, List.append_assoc]
    · -- a step of another: nothing of monitor `i` changes
      rw [ofMonitor_cons_of_ne hj]
      rcases hstep : b.step runner j q with _ | ⟨record, b'⟩
      · rw [runSteps_of_none hstep]
        simp only [recordsOf_of_none hstep]
        exact ih hslot memory
      · rw [runSteps_of_some hstep]
        simp only [recordsOf_of_some hstep, if_neg hj, ← ofMonitor_calls_step_of_ne hj hstep]
        exact ih ((slot_step_of_ne hj hstep).trans hslot) memory

end Bay

/-! ### Alone -/

/-- Answers every call by `f`, whatever it remembers. -/
def Runner.answering {σ : Type} (f : Call → Except Failure Run) (remember : Call → σ → σ) : Runner σ :=
  fun c memory => (f c, remember c memory)

/-- The steps asked of a monitor that is alone in its bay. -/
def Monitor.alone {σ : Type} (runner : Runner σ) (m : Monitor) (memory : σ) (steps : List Step) :
    List StepRecord × Bay σ :=
  (Bay.start [m] memory).runSteps runner (steps.map fun q => (0, q))

/-- What monitor `i` shows in the outcome of the steps is what is shown `alone`: its answers and failures,
the kinds it kept and the events it logged, step by step, the calls it made, and what it keeps in the
end. -/
structure AsAlone {σ τ : Type} (start : Bay σ) (i : Nat) (steps : List (Nat × Step))
    (outcome : List StepRecord × Bay σ) (alone : List StepRecord × Bay τ) : Prop where
  records : (start.recordsOf i steps outcome.1).map StepRecord.own = alone.1.map StepRecord.own
  calls : ofMonitor i outcome.2.calls = alone.2.calls.map Prod.snd
  kept : outcome.2.slots[i]? = alone.2.slots[0]?

variable {σ τ : Type} {monitors : List Monitor} {i : Nat} {m : Monitor}

/-- Alone, a monitor goes through its moves. -/
theorem Monitor.own_alone (runner : Runner σ) (m : Monitor) (memory : σ) (steps : List Step) :
    let moves := m.moves runner .empty memory steps
    let state := m.stateAfter runner .empty memory steps
    (m.alone runner memory steps).1.map StepRecord.own = moves.map Move.own ∧
      (m.alone runner memory steps).2.calls.map Prod.snd = moves.flatMap (fun mv => mv.after.calls) ∧
      (m.alone runner memory steps).2.slots[0]? = some ⟨m, state.1⟩ := by
  intro moves state
  let numbered : List (Nat × Call) := moves.flatMap fun mv => mv.after.calls.map fun c => (0, c)
  obtain ⟨hown, hbay⟩ : (m.alone runner memory steps).1.map StepRecord.own = moves.map Move.own ∧
      (m.alone runner memory steps).2 = ⟨[⟨m, state.1⟩], state.2, [] ++ numbered⟩ :=
    Bay.runSteps_single .empty memory [] steps
  have hnumber : Prod.snd ∘ (fun c : Call => (0, c)) = id := rfl
  refine ⟨hown, ?_, by rw [hbay]; rfl⟩
  rw [hbay, List.nil_append, List.map_flatMap]
  simp only [List.map_map, hnumber, List.map_id]

theorem Bay.slot_start (hm : monitors[i]? = some m) (memory : σ) :
    (Bay.start monitors memory).slots[i]? = some ⟨m, .empty⟩ := by
  rw [Bay.start, List.getElem?_map, hm, Option.map_some]

theorem asAlone_runSteps (f : Call → Except Failure Run) (remember : Call → σ → σ) (remember' : Call → τ → τ)
    (memory : σ) (memory' : τ) (hm : monitors[i]? = some m) (steps : List (Nat × Step)) :
    AsAlone (Bay.start monitors memory) i steps
      ((Bay.start monitors memory).runSteps (.answering f remember) steps)
      (m.alone (.answering f remember') memory' (ofMonitor i steps)) := by
  obtain ⟨hrecords, hcalls, hkept⟩ := Bay.own_runSteps (.answering f remember) (.answering f remember')
    (fun _ _ _ => rfl) (Bay.slot_start hm memory) memory' steps
  obtain ⟨hown, hmade, hslot⟩ := m.own_alone (.answering f remember') memory' (ofMonitor i steps)
  have hnone : ofMonitor i (Bay.start monitors memory).calls = [] := rfl
  rw [hnone, List.nil_append] at hcalls
  exact ⟨hrecords.trans hown.symm, hcalls.trans hmade.symm, hkept.trans hslot.symm⟩

end DriveHealth
