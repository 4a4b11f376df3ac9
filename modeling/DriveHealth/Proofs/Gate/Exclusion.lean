/-
# One body per path

A step changes one caller, and at most one lock: the registry only grows, and a lock changes its holder
when a caller goes inside it or leaves it. So the lock that is a path's stays the path's alone, every
caller waits for the lock of its own path, and who holds a lock is who is inside (`Sound`). From this
follows that no two bodies of a path run at a time, and that a caller is kept waiting by another body of
its own path and by nothing else.

Key definitions: `Gate.after`, `Gate.IsLockOf`, `Gate.Sound`.
Key theorems: `Gate.step?_cases`, `Gate.sound_after`, `Gate.crowd_le_one`, `Gate.step?_eq_none_iff`.
-/
import DriveHealth.Gate
import Mathlib.Data.List.Basic

namespace DriveHealth.Gate

/-! ### Views of the registry and of the callers -/

/-- The names of the locks, the oldest lock first. -/
def names (locks : List Lock) : List String := locks.map Lock.name

/-- The caller that holds the lock in this place. -/
def holder? (locks : List Lock) (lock : Nat) : Option Nat := locks[lock]?.bind Lock.holder

/-- The lock in this place is the path's. -/
def IsLockOf (locks : List Lock) (path : String) (lock : Nat) : Prop :=
  (names locks)[lock]? = some (lockName path)

/-- Where caller `i` stands. -/
def phase? (callers : List Caller) (i : Nat) : Option Phase := callers[i]?.map Caller.phase

/-- The lock that a caller waits for or is inside of. -/
def Phase.lock? : Phase → Option Nat
  | waiting lock | inside lock => some lock
  | outside | gone _ => none

/-- How often a caller has started its body that stands here. -/
def Phase.runs : Phase → Nat
  | outside | waiting _ => 0
  | inside _ | gone _ => 1

/-- The caller has left the gate, with or without a panic. -/
def Caller.IsGone (c : Caller) : Prop := ∃ panicked, c.phase = .gone panicked

/-- The state that a schedule leads to. -/
def after (s : State) (schedule : List Nat) : State := schedule.foldl turn s

variable {s s' : State} {locks : List Lock} {callers : List Caller} {c c' : Caller} {i j : Nat}
  {lock lock' : Nat} {path path' name : String} {holder : Option Nat} {schedule : List Nat}

theorem isInside_iff : c.isInside = true ↔ ∃ lock, c.phase = .inside lock := by
  unfold Caller.isInside
  cases c.phase <;> simp

theorem lockName_injective (h : lockName path = lockName path') : path = path' :=
  (String.append_right_inj _).mp h

/-! ### The registry -/

theorem names_append (added : List Lock) : names (locks ++ added) = names locks ++ names added :=
  List.map_append

theorem names_setHolder (lock : Nat) (holder : Option Nat) : names (setHolder locks lock holder) = names locks := by
  unfold names setHolder
  apply List.ext_getElem?
  intro k
  rw [List.getElem?_map, List.getElem?_map, List.getElem?_modify]
  rcases locks[k]? with _ | l
  · rfl
  · by_cases hk : lock = k <;> simp [hk]

theorem holder?_setHolder (hlock : lock < locks.length) (k : Nat) :
    holder? (setHolder locks lock holder) k = if k = lock then holder else holder? locks k := by
  unfold holder? setHolder
  rw [List.getElem?_modify]
  by_cases hk : k = lock
  · subst hk
    rw [if_pos rfl, List.getElem?_eq_getElem hlock]
    simp
  · rw [if_neg hk]
    have hne : ¬ lock = k := fun h => hk h.symm
    rcases locks[k]? with _ | l <;> simp [hne]

/-- A lock that nobody holds yet does not show among the holders. -/
theorem holder?_append_free (name : String) (k : Nat) :
    holder? (locks ++ [⟨name, none⟩]) k = holder? locks k := by
  unfold holder?
  rw [List.getElem?_append]
  by_cases hk : k < locks.length
  · rw [if_pos hk]
  · rw [if_neg hk, List.getElem?_eq_none (Nat.le_of_not_lt hk)]
    rcases hnew : ([⟨name, none⟩] : List Lock)[k - locks.length]? with _ | l
    · rfl
    · have hl : l = ⟨name, none⟩ := List.mem_singleton.mp (List.mem_of_getElem? hnew)
      rw [hl]
      rfl

theorem lt_length_of_holder? (h : holder? locks lock = some i) : lock < locks.length := by
  unfold holder? at h
  obtain ⟨l, hl, -⟩ := Option.bind_eq_some_iff.mp h
  exact (List.getElem?_eq_some_iff.mp hl).1

theorem lt_length_of_isLockOf (h : IsLockOf locks path lock) : lock < locks.length := by
  obtain ⟨hlt, -⟩ := List.getElem?_eq_some_iff.mp h
  rwa [names, List.length_map] at hlt

/-- A lock that exists is free when nobody holds it. -/
theorem isFree_iff : isFree locks lock = true ↔ lock < locks.length ∧ holder? locks lock = none := by
  unfold isFree holder?
  rcases hl : locks[lock]? with _ | l
  · have hlen : locks.length ≤ lock := List.getElem?_eq_none_iff.mp hl
    simp only [Option.any_none, Bool.false_eq_true, Option.bind_none, and_true, false_iff]
    omega
  · obtain ⟨hlt, -⟩ := List.getElem?_eq_some_iff.mp hl
    simp [hlt]

/-- Looking a name up finds its lock, or adds one that is free. -/
theorem lookUp_cases (name : String) (locks : List Lock) :
    (∃ lock, lookUp name locks = (lock, locks) ∧ (names locks)[lock]? = some name) ∨
    (lookUp name locks = (locks.length, locks ++ [⟨name, none⟩]) ∧ name ∉ names locks) := by
  unfold lookUp
  rcases h : locks.findIdx? fun l => l.name = name with _ | lock
  · refine .inr ⟨by rw [h], fun hmem => ?_⟩
    obtain ⟨l, hl, hname⟩ := List.mem_map.mp hmem
    have hnot := List.findIdx?_eq_none_iff.mp h l hl
    simp [hname] at hnot
  · obtain ⟨hlt, hname, -⟩ := List.findIdx?_eq_some_iff_getElem.mp h
    refine .inl ⟨lock, by rw [h], ?_⟩
    rw [names, List.getElem?_map, List.getElem?_eq_getElem hlt, Option.map_some]
    exact congrArg some (of_decide_eq_true hname)

/-- What looking a path's lock up does: locks keep place, name and holder, and no name comes twice. -/
theorem lookUp_spec {locks' : List Lock} (h : lookUp (lockName path) locks = (lock, locks')) :
    names locks <+: names locks' ∧ ((names locks).Nodup → (names locks').Nodup) ∧
      IsLockOf locks' path lock ∧ ∀ k, holder? locks' k = holder? locks k := by
  rcases lookUp_cases (lockName path) locks with ⟨found, heq, hname⟩ | ⟨heq, hnew⟩
  · rw [heq] at h
    cases h
    exact ⟨List.prefix_refl _, id, hname, fun _ => rfl⟩
  · rw [heq] at h
    cases h
    have hnames : names (locks ++ [⟨lockName path, none⟩]) = names locks ++ [lockName path] :=
      names_append _
    refine ⟨?_, fun hnodup => ?_, ?_, holder?_append_free _⟩
    · rw [hnames]
      exact List.prefix_append _ _
    · rw [hnames]
      refine List.nodup_append.mpr ⟨hnodup, by simp, fun a ha b hb hab => ?_⟩
      rw [List.mem_singleton.mp hb] at hab
      exact hnew (hab ▸ ha)
    · have hlen : (names locks).length = locks.length := List.length_map _
      unfold IsLockOf
      rw [hnames, ← hlen, List.getElem?_concat_length]

theorem isLockOf_of_prefix {locks' : List Lock} (hgrow : names locks <+: names locks')
    (h : IsLockOf locks path lock) : IsLockOf locks' path lock := by
  obtain ⟨added, hadded⟩ := hgrow
  obtain ⟨hlt, -⟩ := List.getElem?_eq_some_iff.mp h
  unfold IsLockOf
  rw [← hadded, List.getElem?_append_left hlt]
  exact h

/-- Where no name comes twice, a path has one lock, and the lock has one path. -/
theorem isLockOf_unique (hnodup : (names locks).Nodup) (h : IsLockOf locks path lock)
    (h' : IsLockOf locks path' lock') : path' = path ↔ lock' = lock := by
  obtain ⟨hlt, -⟩ := List.getElem?_eq_some_iff.mp h'
  constructor
  · rintro rfl
    have hsame : (names locks)[lock']? = (names locks)[lock]? := by rw [h, h']
    exact (List.getElem?_inj hlt hnodup).mp hsame
  · rintro rfl
    have hnames : some (lockName path') = some (lockName path) := by rw [← h, ← h']
    exact lockName_injective (Option.some.inj hnames)

/-! ### Steps -/

theorem phase?_set (hc : callers[i]? = some c) (c' : Caller) (j : Nat) :
    phase? (callers.set i c') j = if j = i then some c'.phase else phase? callers j := by
  obtain ⟨hlt, -⟩ := List.getElem?_eq_some_iff.mp hc
  unfold phase?
  rw [List.getElem?_set]
  by_cases hj : j = i
  · subst hj
    simp [hlt]
  · have hne : ¬ i = j := fun h => hj h.symm
    simp [hj, hne]

theorem phase?_eq (hc : callers[i]? = some c) : phase? callers i = some c.phase := by
  rw [phase?, hc, Option.map_some]

/-- All that a step can do: a caller looks its lock up, goes inside it when it is free, or leaves. -/
theorem step?_cases (h : step? s i = some s') : ∃ c, s.callers[i]? = some c ∧
    ((c.phase = .outside ∧ ∃ lock locks, lookUp (lockName c.path) s.locks = (lock, locks) ∧
        s' = ⟨locks, s.callers.set i { c with phase := .waiting lock }⟩) ∨
      (∃ lock, c.phase = .waiting lock ∧ isFree s.locks lock = true ∧
        s' = ⟨setHolder s.locks lock (some i),
          s.callers.set i { c with phase := .inside lock, runs := c.runs + 1 }⟩) ∨
      (∃ lock, c.phase = .inside lock ∧
        s' = ⟨setHolder s.locks lock none, s.callers.set i { c with phase := .gone c.panics }⟩)) := by
  unfold step? at h
  rcases hc : s.callers[i]? with _ | c
  · rw [hc] at h
    cases h
  · rw [hc] at h
    refine ⟨c, rfl, ?_⟩
    cases hp : c.phase with
    | outside =>
      simp only [hp] at h
      exact .inl ⟨rfl, _, _, rfl, (Option.some.inj h).symm⟩
    | waiting lock =>
      simp only [hp] at h
      split at h
      · rename_i hfree
        exact .inr (.inl ⟨lock, rfl, hfree, (Option.some.inj h).symm⟩)
      · cases h
    | inside lock =>
      simp only [hp] at h
      exact .inr (.inr ⟨lock, rfl, (Option.some.inj h).symm⟩)
    | gone panicked =>
      simp only [hp] at h
      cases h

/-- A caller that is not gone can move unless the lock that it waits for is not free. -/
theorem step?_eq_none (hc : s.callers[i]? = some c) :
    step? s i = none ↔ c.IsGone ∨ ∃ lock, c.phase = .waiting lock ∧ isFree s.locks lock = false := by
  unfold step? Caller.IsGone
  rw [hc]
  cases hp : c.phase with
  | outside => simp [hp]
  | waiting lock => by_cases hfree : isFree s.locks lock = true <;> simp [hp, hfree]
  | inside lock => simp [hp]
  | gone panicked => simp [hp]

/-! ### What every step keeps -/

/-- The callers and the registry agree with each other. -/
structure Sound (s : State) : Prop where
  /-- No two locks bear the same name. -/
  nodup : (names s.locks).Nodup
  /-- A caller waits for the lock of its path, and it is this lock that it goes inside. -/
  own : ∀ c ∈ s.callers, ∀ lock, c.phase.lock? = some lock → IsLockOf s.locks c.path lock
  /-- The holder of a lock is the caller inside it. -/
  holder : ∀ lock i, holder? s.locks lock = some i ↔ phase? s.callers i = some (.inside lock)
  /-- A body is started once, when its caller goes inside. -/
  runs : ∀ c ∈ s.callers, c.runs = c.phase.runs

theorem sound_start (callers : List (String × Bool)) : Sound (start callers) := by
  have houtside : ∀ c ∈ (start callers).callers, c.phase = .outside ∧ c.runs = 0 := by
    intro c hc
    obtain ⟨p, -, rfl⟩ := List.mem_map.mp hc
    exact ⟨rfl, rfl⟩
  refine ⟨List.nodup_nil, fun c hc lock hlock => ?_, fun lock i => ?_, fun c hc => ?_⟩
  · rw [(houtside c hc).1] at hlock
    cases hlock
  · refine iff_of_false (fun h => by cases h) fun h => ?_
    obtain ⟨c, hc, hp⟩ := Option.map_eq_some_iff.mp h
    rw [(houtside c (List.mem_of_getElem? hc)).1] at hp
    cases hp
  · rw [(houtside c hc).1, (houtside c hc).2]
    rfl

/-- A caller that looks its lock up holds no lock yet, nor does anybody hold another one after it. -/
theorem sound_lookUp (h : Sound s) (hc : s.callers[i]? = some c) (hp : c.phase = .outside)
    (hlook : lookUp (lockName c.path) s.locks = (lock, locks)) :
    Sound ⟨locks, s.callers.set i { c with phase := .waiting lock }⟩ := by
  obtain ⟨hgrow, hnodup, hown, hholder⟩ := lookUp_spec hlook
  have hold := phase?_eq hc
  refine ⟨hnodup h.nodup, fun x hx k hk => ?_, fun k j => ?_, fun x hx => ?_⟩
  · rcases List.mem_or_eq_of_mem_set hx with hx | rfl
    · exact isLockOf_of_prefix hgrow (h.own x hx k hk)
    · cases hk
      exact hown
  · show holder? locks k = some j ↔ phase? (s.callers.set i _) j = _
    rw [hholder, phase?_set hc, h.holder]
    by_cases hj : j = i
    · subst hj
      rw [if_pos rfl, hold, hp]
      simp
    · rw [if_neg hj]
  · rcases List.mem_or_eq_of_mem_set hx with hx | rfl
    · exact h.runs x hx
    · have hruns := h.runs c (List.mem_of_getElem? hc)
      rw [hp] at hruns
      exact hruns

/-- A caller goes inside a lock that nobody holds, so that it is the only one inside. -/
theorem sound_goInside (h : Sound s) (hc : s.callers[i]? = some c) (hp : c.phase = .waiting lock)
    (hfree : isFree s.locks lock = true) :
    Sound ⟨setHolder s.locks lock (some i),
      s.callers.set i { c with phase := .inside lock, runs := c.runs + 1 }⟩ := by
  obtain ⟨hlt, hnone⟩ := isFree_iff.mp hfree
  have hmem := List.mem_of_getElem? hc
  have hold := phase?_eq hc
  have hnames : names (setHolder s.locks lock (some i)) = names s.locks := names_setHolder lock (some i)
  refine ⟨?_, fun x hx k hk => ?_, fun k j => ?_, fun x hx => ?_⟩
  · show (names (setHolder s.locks lock (some i))).Nodup
    rw [hnames]
    exact h.nodup
  · unfold IsLockOf
    rw [hnames]
    rcases List.mem_or_eq_of_mem_set hx with hx | rfl
    · exact h.own x hx k hk
    · cases hk
      exact h.own c hmem lock (by rw [hp]; rfl)
  · show holder? (setHolder s.locks lock (some i)) k = some j ↔ phase? (s.callers.set i _) j = _
    rw [holder?_setHolder hlt, phase?_set hc]
    by_cases hk : k = lock
    · subst hk
      rw [if_pos rfl]
      by_cases hj : j = i
      · subst hj
        simp
      · rw [if_neg hj, ← h.holder, hnone]
        simp [Ne.symm hj]
    · rw [if_neg hk]
      by_cases hj : j = i
      · subst hj
        rw [if_pos rfl, h.holder, hold, hp]
        simp [Ne.symm hk]
      · rw [if_neg hj, h.holder]
  · rcases List.mem_or_eq_of_mem_set hx with hx | rfl
    · exact h.runs x hx
    · have hruns := h.runs c hmem
      rw [hp] at hruns
      show c.runs + 1 = 1
      rw [hruns]
      rfl

/-- A caller that leaves gives back the one lock that it holds, whether its body panicked or not. -/
theorem sound_leave (h : Sound s) (hc : s.callers[i]? = some c) (hp : c.phase = .inside lock)
    (panicked : Bool) :
    Sound ⟨setHolder s.locks lock none, s.callers.set i { c with phase := .gone panicked }⟩ := by
  have hmem := List.mem_of_getElem? hc
  have hold := phase?_eq hc
  rw [hp] at hold
  have hheld : holder? s.locks lock = some i := (h.holder lock i).mpr hold
  have hnames : names (setHolder s.locks lock none) = names s.locks := names_setHolder lock none
  refine ⟨?_, fun x hx k hk => ?_, fun k j => ?_, fun x hx => ?_⟩
  · show (names (setHolder s.locks lock none)).Nodup
    rw [hnames]
    exact h.nodup
  · unfold IsLockOf
    rw [hnames]
    rcases List.mem_or_eq_of_mem_set hx with hx | rfl
    · exact h.own x hx k hk
    · cases hk
  · show holder? (setHolder s.locks lock none) k = some j ↔ phase? (s.callers.set i _) j = _
    rw [holder?_setHolder (lt_length_of_holder? hheld), phase?_set hc]
    by_cases hk : k = lock
    · subst hk
      rw [if_pos rfl]
      by_cases hj : j = i
      · simp [hj]
      · rw [if_neg hj, ← h.holder, hheld]
        simp [Ne.symm hj]
    · rw [if_neg hk]
      by_cases hj : j = i
      · subst hj
        rw [if_pos rfl, h.holder, hold]
        simp [Ne.symm hk]
      · rw [if_neg hj, h.holder]
  · rcases List.mem_or_eq_of_mem_set hx with hx | rfl
    · exact h.runs x hx
    · have hruns := h.runs c hmem
      rw [hp] at hruns
      exact hruns

theorem sound_step (h : Sound s) (hstep : step? s i = some s') : Sound s' := by
  obtain ⟨c, hc, hmove⟩ := step?_cases hstep
  rcases hmove with ⟨hp, lock, locks, hlook, rfl⟩ | ⟨lock, hp, hfree, rfl⟩ | ⟨lock, hp, rfl⟩
  · exact sound_lookUp h hc hp hlook
  · exact sound_goInside h hc hp hfree
  · exact sound_leave h hc hp c.panics

/-- A step makes at most one new lock, behind the others. -/
theorem names_prefix_step (hstep : step? s i = some s') : names s.locks <+: names s'.locks := by
  obtain ⟨c, hc, hmove⟩ := step?_cases hstep
  rcases hmove with ⟨hp, lock, locks, hlook, rfl⟩ | ⟨lock, hp, hfree, rfl⟩ | ⟨lock, hp, rfl⟩
  · exact (lookUp_spec hlook).1
  · exact ⟨[], by rw [List.append_nil, names_setHolder]⟩
  · exact ⟨[], by rw [List.append_nil, names_setHolder]⟩

/-- What each caller wants does not change. -/
def requests (s : State) : List (String × Bool) := s.callers.map fun c => (c.path, c.panics)

theorem requests_start (callers : List (String × Bool)) : requests (start callers) = callers := by
  unfold requests start
  rw [List.map_map]
  exact List.map_id _

theorem requests_step (hstep : step? s i = some s') : requests s' = requests s := by
  obtain ⟨c, hc, hmove⟩ := step?_cases hstep
  have hset (c' : Caller) (hc' : (c'.path, c'.panics) = (c.path, c.panics)) :
      (s.callers.set i c').map (fun c => (c.path, c.panics)) = requests s := by
    obtain ⟨hlt, hget⟩ := List.getElem?_eq_some_iff.mp hc
    have hlength : i < (requests s).length := by simpa [requests] using hlt
    have hsame : (requests s)[i] = (c.path, c.panics) := by simp [requests, hget]
    rw [List.map_set, hc', ← hsame]
    exact List.set_getElem_self _
  rcases hmove with ⟨hp, lock, locks, hlook, rfl⟩ | ⟨lock, hp, hfree, rfl⟩ | ⟨lock, hp, rfl⟩
  · exact hset _ rfl
  · exact hset _ rfl
  · exact hset _ rfl

/-! ### What every schedule keeps -/

/-- A turn is a step or changes nothing. -/
theorem turn_cases (s : State) (i : Nat) : turn s i = s ∨ step? s i = some (turn s i) := by
  unfold turn
  rcases step? s i with _ | s'
  · exact .inl rfl
  · exact .inr rfl

/-- What steps keep is kept by a schedule. -/
theorem after_induction {P : State → Prop} (hstep : ∀ s s' i, P s → step? s i = some s' → P s') (h : P s)
    (schedule : List Nat) : P (after s schedule) := by
  induction schedule generalizing s with
  | nil => exact h
  | cons i rest ih =>
    refine ih (s := turn s i) ?_
    rcases turn_cases s i with heq | hmove
    · rwa [heq]
    · exact hstep s _ i h hmove

theorem after_append (s : State) (first later : List Nat) :
    after s (first ++ later) = after (after s first) later :=
  List.foldl_append

theorem sound_after (h : Sound s) (schedule : List Nat) : Sound (after s schedule) :=
  after_induction (fun _ _ _ => sound_step) h schedule

theorem names_prefix_after (s : State) (schedule : List Nat) :
    names s.locks <+: names (after s schedule).locks :=
  after_induction (P := fun t => names s.locks <+: names t.locks)
    (fun _ _ _ hgrow hstep => hgrow.trans (names_prefix_step hstep)) (List.prefix_refl _) schedule

theorem requests_after (s : State) (schedule : List Nat) : requests (after s schedule) = requests s :=
  after_induction (P := fun t => requests t = requests s)
    (fun _ _ _ hsame hstep => (requests_step hstep).trans hsame) rfl schedule

/-! ### Exclusion -/

/-- Callers of one path that are inside are one caller. -/
theorem eq_of_isInside {d : Caller} (h : Sound s) (hc : s.callers[i]? = some c) (hd : s.callers[j]? = some d)
    (hpath : c.path = d.path) (hci : c.isInside = true) (hdi : d.isInside = true) : i = j := by
  obtain ⟨lock, hcp⟩ := isInside_iff.mp hci
  obtain ⟨lock', hdp⟩ := isInside_iff.mp hdi
  have hcl : IsLockOf s.locks c.path lock := h.own c (List.mem_of_getElem? hc) lock (by rw [hcp]; rfl)
  have hdl : IsLockOf s.locks d.path lock' := h.own d (List.mem_of_getElem? hd) lock' (by rw [hdp]; rfl)
  have hlock : lock = lock' := (isLockOf_unique h.nodup hdl hcl).mp hpath
  have hi : holder? s.locks lock = some i := (h.holder lock i).mpr (by rw [phase?_eq hc, hcp])
  have hj : holder? s.locks lock' = some j := (h.holder lock' j).mpr (by rw [phase?_eq hd, hdp])
  rw [hlock, hj] at hi
  exact (Option.some.inj hi).symm

/-- What holds of one element at most is counted once at most. -/
theorem countP_le_one {α : Type} {p : α → Bool} :
    ∀ {l : List α}, l.Pairwise (fun a b => ¬ (p a = true ∧ p b = true)) → l.countP p ≤ 1
  | [], _ => by simp
  | a :: l, h => by
    obtain ⟨ha, hl⟩ := List.pairwise_cons.mp h
    by_cases hp : p a = true
    · have hnone : l.countP p = 0 := List.countP_eq_zero.mpr fun b hb hpb => ha b hb ⟨hp, hpb⟩
      have hone : (a :: l).countP p = 1 := by rw [List.countP_cons_of_pos hp, hnone]
      exact Nat.le_of_eq hone
    · rw [List.countP_cons_of_neg hp]
      exact countP_le_one hl

/-- At most one body of a path runs. -/
theorem crowd_le_one (h : Sound s) (path : String) : crowd s path ≤ 1 := by
  unfold crowd
  refine countP_le_one (List.pairwise_iff_getElem.mpr fun i j hi hj hij hboth => ?_)
  simp only [Bool.and_eq_true, decide_eq_true_eq] at hboth
  obtain ⟨⟨hpi, hii⟩, ⟨hpj, hij'⟩⟩ := hboth
  have heq : i = j := eq_of_isInside h (List.getElem?_eq_getElem hi) (List.getElem?_eq_getElem hj)
    (hpi.trans hpj.symm) hii hij'
  omega

/-! ### Waiting -/

/-- A lock that is not free holds up its path's callers because one of them is inside. -/
theorem exists_inside_of_not_free (h : Sound s) (hc : s.callers[i]? = some c) (hp : c.phase = .waiting lock)
    (hfree : isFree s.locks lock = false) :
    ∃ j d, j ≠ i ∧ s.callers[j]? = some d ∧ d.path = c.path ∧ d.phase = .inside lock := by
  have hown : IsLockOf s.locks c.path lock := h.own c (List.mem_of_getElem? hc) lock (by rw [hp]; rfl)
  have hlt := lt_length_of_isLockOf hown
  obtain ⟨j, hj⟩ : ∃ j, holder? s.locks lock = some j := by
    rcases hholder : holder? s.locks lock with _ | j
    · rw [isFree_iff.mpr ⟨hlt, hholder⟩] at hfree
      cases hfree
    · exact ⟨j, rfl⟩
  obtain ⟨d, hd, hdp⟩ := Option.map_eq_some_iff.mp ((h.holder lock j).mp hj)
  have hdown : IsLockOf s.locks d.path lock := h.own d (List.mem_of_getElem? hd) lock (by rw [hdp]; rfl)
  refine ⟨j, d, ?_, hd, (isLockOf_unique h.nodup hown hdown).mpr rfl, hdp⟩
  rintro rfl
  rw [hc] at hd
  cases hd
  rw [hp] at hdp
  cases hdp

/-- **A caller is kept waiting by its own path alone.** A caller that is not gone cannot move just when
it waits and another body of its path is inside. -/
theorem step?_eq_none_iff (h : Sound s) (hc : s.callers[i]? = some c) (hgone : ¬ c.IsGone) :
    step? s i = none ↔ (∃ lock, c.phase = .waiting lock) ∧
      ∃ j d, j ≠ i ∧ s.callers[j]? = some d ∧ d.path = c.path ∧ d.isInside = true := by
  rw [step?_eq_none hc]
  constructor
  · rintro (hg | ⟨lock, hp, hfree⟩)
    · exact absurd hg hgone
    · obtain ⟨j, d, hj, hd, hpath, hdp⟩ := exists_inside_of_not_free h hc hp hfree
      exact ⟨⟨lock, hp⟩, j, d, hj, hd, hpath, isInside_iff.mpr ⟨lock, hdp⟩⟩
  · rintro ⟨⟨lock, hp⟩, j, d, -, hd, hpath, hdi⟩
    refine .inr ⟨lock, hp, ?_⟩
    obtain ⟨lock', hdp⟩ := isInside_iff.mp hdi
    have hown : IsLockOf s.locks c.path lock := h.own c (List.mem_of_getElem? hc) lock (by rw [hp]; rfl)
    have hdown : IsLockOf s.locks d.path lock' :=
      h.own d (List.mem_of_getElem? hd) lock' (by rw [hdp]; rfl)
    have hlock : lock' = lock := (isLockOf_unique h.nodup hown hdown).mp hpath
    have hheld : holder? s.locks lock = some j := by
      rw [← hlock]
      exact (h.holder lock' j).mpr (by rw [phase?_eq hd, hdp])
    rcases hfree : isFree s.locks lock with _ | _
    · rfl
    · rw [(isFree_iff.mp hfree).2] at hheld
      cases hheld

end DriveHealth.Gate
