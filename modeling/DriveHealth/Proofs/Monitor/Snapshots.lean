/-
# A snapshot shows one output

Nine questions are asked for a snapshot, and each could run smartctl by itself. The first one settles
what is kept, so that the others read the same lines and none of them can fail. Therefore no two parts
of a snapshot speak of different runs, and the parts agree with each other: a drive that has SMART
switched on has SMART, and so does a drive without a table that is found healthy, unless it says
otherwise.

Key definitions: `Snapshot.ReadFrom`.
Key theorems: `Reading.isSupported_of_isEnabled`, `Health.hasHealthLine_of_hasPassingLine`,
`snapshot_shows_one_output`.
-/
import DriveHealth.Proofs.Health.Verdicts
import DriveHealth.Proofs.Monitor.Transition

namespace DriveHealth

/-! ### What the parts of a reading say of each other -/

namespace Health

variable {line : String} {lines : List String}

/-- Each text that says the drive is healthy starts with a text that gives an outcome. -/
theorem exists_healthText_prefix :
    ∀ passing ∈ passingTexts, ∃ text ∈ healthTexts, text.toList <+: passing.toList := by
  decide +kernel

theorem holdsAny_healthTexts (h : holdsAny passingTexts line = true) : holdsAny healthTexts line = true := by
  unfold holdsAny at h ⊢
  obtain ⟨passing, hpassing, hoccurs⟩ := List.any_eq_true.mp h
  obtain ⟨text, htext, hprefix⟩ := exists_healthText_prefix passing hpassing
  have hline : text.toList <:+: Text.lower line.toList :=
    hprefix.isInfix.trans (Text.occursIn_iff.mp hoccurs)
  exact List.any_eq_true.mpr ⟨text, htext, Text.occursIn_iff.mpr hline⟩

/-- A line that says the drive is healthy gives an outcome. -/
theorem hasHealthLine_of_hasPassingLine (h : hasPassingLine lines = true) : hasHealthLine lines = true := by
  unfold hasPassingLine at h
  unfold hasHealthLine
  obtain ⟨line, hmem, hpassing⟩ := List.any_eq_true.mp h
  exact List.any_eq_true.mpr ⟨line, hmem, holdsAny_healthTexts hpassing⟩

/-- Without a table only a line that says so makes a drive good. -/
theorem hasPassingLine_of_good {size : UInt64} (h : evaluate [] lines size = .good) :
    hasPassingLine lines = true := by
  rw [evaluate_of_nil] at h
  by_cases hline : hasPassingLine lines = true
  · exact hline
  · rw [if_neg hline] at h
    cases h

end Health

namespace Reading

variable {lines : List String}

/-- No text starts with both words. -/
theorem not_unavailable_of_enabled {text : List Char} (h : "enabled".toList.isPrefixOf text = true) :
    "unavailable".toList.isPrefixOf text = false := by
  obtain ⟨rest, rfl⟩ := List.isPrefixOf_iff_prefix.mp h
  rfl

/-- SMART is not switched on where it is missing. -/
theorem isSupported_of_isEnabled (h : isEnabled lines = true) : isSupported lines = true := by
  unfold isEnabled at h
  unfold isSupported
  rcases hs : support? lines with _ | support
  · rw [hs] at h
    exact h
  · rw [hs] at h
    have hnot : "unavailable".toList.isPrefixOf support = false := not_unavailable_of_enabled h
    simp only [hnot, Bool.not_false]

/-- A drive that has only a health line to tell of SMART has SMART, and it is switched on. -/
theorem isSupported_and_isEnabled_of_healthLine
    (hentry : (Information.ofLines lines).get? "smartsupportis" = none)
    (hline : Health.hasHealthLine lines = true) : isSupported lines = true ∧ isEnabled lines = true := by
  have hs : support? lines = none := by
    unfold support?
    rw [hentry, Option.map_none]
  unfold isSupported isEnabled
  rw [hs]
  exact ⟨hline, hline⟩

end Reading

/-! ### Snapshots -/

namespace Snapshot

variable {σ : Type} {runner : Runner σ} {m : Monitor} {s : Session σ} {snap : Snapshot}
  {lines : List String} {run : Run} {e : Failure}

/-- All parts of the snapshot of the monitored device are read from the same lines. -/
structure ReadFrom (snap : Snapshot) (m : Monitor) (lines : List String) : Prop where
  device : snap.device = m.device.path
  size : snap.size = m.device.size
  isSupported : snap.isSupported = Reading.isSupported lines
  isEnabled : snap.isEnabled = Reading.isEnabled lines
  verdict : snap.verdict = Health.evaluate snap.attributes lines m.device.size
  temperature : snap.temperature = Temperature.resolve snap.attributes lines
  power : snap.power = Power.counters snap.attributes snap.information
  powerMode : snap.powerMode = Power.mode snap.information lines
  information : snap.information = Information.ofLines lines
  attributes : snap.attributes = Attribute.table lines
  selfTests : snap.selfTests = SelfTest.log lines

theorem readFrom_snapshot (m : Monitor) (lines : List String) : (Reading.snapshot m lines).ReadFrom m lines := by
  constructor <;> rfl

theorem ReadFrom.isSupported_of_isEnabled (h : snap.ReadFrom m lines) (henabled : snap.isEnabled = true) :
    snap.isSupported = true := by
  rw [h.isEnabled] at henabled
  rw [h.isSupported]
  exact Reading.isSupported_of_isEnabled henabled

theorem ReadFrom.isSupported_and_isEnabled_of_good (h : snap.ReadFrom m lines) (htable : snap.attributes = [])
    (hgood : snap.verdict = .good) (hentry : snap.information.get? "smartsupportis" = none) :
    snap.isSupported = true ∧ snap.isEnabled = true := by
  have hpassing : Health.hasPassingLine lines = true := by
    rw [h.verdict, htable] at hgood
    exact Health.hasPassingLine_of_good hgood
  rw [h.information] at hentry
  rw [h.isSupported, h.isEnabled]
  exact Reading.isSupported_and_isEnabled_of_healthLine hentry
    (Health.hasHealthLine_of_hasPassingLine hpassing)

/-- The call that a snapshot makes when nothing is kept. -/
def call (m : Monitor) : Call := m.callFor .default m.nocheck m.device.typeHint

theorem collect_of_held (h : s.cache.lookup .default = some lines) :
    collect runner m s =
      (.ok (Reading.snapshot m lines), { s with events := s.events ++ m.sizeWarning }) :=
  collect_of_ok (Monitor.fetchWith_of_held h) h

theorem collect_of_accepted (hs : s.cache = .empty)
    (h : (call m).judge (runner (call m) s.memory).1 = .ok run) :
    collect runner m s =
      (.ok (Reading.snapshot m run.lines), ⟨.filled .default run.lines, (runner (call m) s.memory).2,
        s.calls ++ [call m], s.events ++ m.warnings run ++ m.sizeWarning⟩) := by
  have hnone : s.cache.lookup .default = none := by rw [hs, Cache.lookup]
  exact collect_of_ok (Monitor.fetchWith_of_accepted hnone rfl h) (Cache.lookup_filled _ _)

theorem collect_of_failed (hs : s.cache = .empty)
    (h : (call m).judge (runner (call m) s.memory).1 = .error e) :
    collect runner m s =
      (.error e, ⟨.empty, (runner (call m) s.memory).2, s.calls ++ [call m], s.events⟩) := by
  have hnone : s.cache.lookup .default = none := by rw [hs, Cache.lookup]
  have hcollect := collect_of_error (Monitor.fetchWith_of_failed hnone rfl h)
  rwa [hs] at hcollect

/-- Whatever is kept answers a request for the default output. -/
theorem lookup_default_of_filled {kind : OutputKind} (hs : s.cache = .filled kind lines) :
    s.cache.lookup .default = some lines := by
  rw [hs, Cache.lookup]
  cases kind <;> rfl

/-- All that collecting a snapshot can do. -/
theorem collect_cases (runner : Runner σ) (m : Monitor) (s : Session σ) :
    (∃ kind lines, s.cache = .filled kind lines ∧ collect runner m s =
      (.ok (Reading.snapshot m lines), { s with events := s.events ++ m.sizeWarning })) ∨
    (∃ run, s.cache = .empty ∧ (call m).judge (runner (call m) s.memory).1 = .ok run ∧
      collect runner m s = (.ok (Reading.snapshot m run.lines),
        ⟨.filled .default run.lines, (runner (call m) s.memory).2, s.calls ++ [call m],
          s.events ++ m.warnings run ++ m.sizeWarning⟩)) ∨
    (∃ e, s.cache = .empty ∧ (call m).judge (runner (call m) s.memory).1 = .error e ∧
      collect runner m s =
        (.error e, ⟨.empty, (runner (call m) s.memory).2, s.calls ++ [call m], s.events⟩)) := by
  rcases hs : s.cache with _ | ⟨kind, lines⟩
  · rcases hr : (call m).judge (runner (call m) s.memory).1 with e | run
    · exact .inr (.inr ⟨e, rfl, rfl, collect_of_failed hs hr⟩)
    · exact .inr (.inl ⟨run, rfl, rfl, collect_of_accepted hs hr⟩)
  · have hheld : collect runner m s = _ := collect_of_held (lookup_default_of_filled hs)
    rw [hs] at hheld
    exact .inl ⟨kind, lines, rfl, hheld⟩

/-- Neither a run nor the size of a device makes the power mode fail. -/
theorem powerModeFailed_not_mem_warnings (m : Monitor) (run : Run) (device error : String) :
    .powerModeFailed device error ∉ m.warnings run ++ m.sizeWarning := by
  unfold Monitor.warnings Monitor.sizeWarning
  split <;> split <;> simp

end Snapshot

/-- **A snapshot shows one output.** If anything is kept, no call is made and there is a snapshot.
Otherwise one call is made: if it fails there is no snapshot and still nothing is kept, and if it is
accepted its lines are kept. In a snapshot everything is read from the lines that are kept afterwards,
also the power mode, which never falls back on its word for a failure. A snapshot that shows SMART
switched on shows that the drive has it, and one that shows a good drive without a table and without an
entry on SMART shows both. -/
theorem snapshot_shows_one_output {σ : Type} (runner : Runner σ) (m : Monitor) (s : Session σ) :
    let outcome := Snapshot.collect runner m s
    let call := m.callFor .default m.nocheck m.device.typeHint
    (s.cache ≠ .empty → outcome.2.calls = s.calls ∧ outcome.2.cache = s.cache ∧
      ∃ snap, outcome.1 = .ok snap) ∧
    (s.cache = .empty → outcome.2.calls = s.calls ++ [call] ∧
      (∀ e, outcome.1 = .error e ↔ call.judge (runner call s.memory).1 = .error e) ∧
      (∀ run, call.judge (runner call s.memory).1 = .ok run →
        outcome.2.cache = .filled .default run.lines)) ∧
    (∀ e, outcome.1 = .error e → s.cache = .empty ∧ outcome.2.cache = .empty) ∧
    (∀ snap, outcome.1 = .ok snap →
      (∃ kind lines, outcome.2.cache = .filled kind lines ∧ snap.ReadFrom m lines) ∧
      (∃ logged, outcome.2.events = s.events ++ logged ∧
        ∀ device error, .powerModeFailed device error ∉ logged) ∧
      (snap.isEnabled = true → snap.isSupported = true) ∧
      (snap.attributes = [] → snap.verdict = .good → snap.information.get? "smartsupportis" = none →
        snap.isSupported = true ∧ snap.isEnabled = true)) := by
  intro outcome call
  rcases Snapshot.collect_cases runner m s with ⟨kind, lines, hs, hc⟩ | ⟨run, hs, hr, hc⟩ | ⟨e, hs, hr, hc⟩
  · have hread := Snapshot.readFrom_snapshot m lines
    have hlogged := Snapshot.powerModeFailed_not_mem_warnings m ⟨0, lines⟩
    simp only [outcome, hc, hs]
    refine ⟨fun _ => ⟨trivial, trivial, _, rfl⟩, by simp, by simp, fun snap hsnap => ?_⟩
    cases hsnap
    exact ⟨⟨kind, lines, rfl, hread⟩, ⟨m.sizeWarning, rfl, hlogged⟩, hread.isSupported_of_isEnabled,
      hread.isSupported_and_isEnabled_of_good⟩
  · have hread := Snapshot.readFrom_snapshot m run.lines
    have hlogged := Snapshot.powerModeFailed_not_mem_warnings m run
    have hcall : call.judge (runner call s.memory).1 = .ok run := hr
    simp only [outcome, hc, hs, hcall]
    refine ⟨by simp, fun _ => ⟨rfl, by simp, ?_⟩, by simp, fun snap hsnap => ?_⟩
    · rintro run' hrun
      cases hrun
      rfl
    · cases hsnap
      refine ⟨⟨.default, run.lines, rfl, hread⟩, ⟨_, List.append_assoc _ _ _, hlogged⟩,
        hread.isSupported_of_isEnabled, hread.isSupported_and_isEnabled_of_good⟩
  · have hcall : call.judge (runner call s.memory).1 = .error e := hr
    simp only [outcome, hc, hs, hcall]
    exact ⟨by simp, fun _ => ⟨rfl, by simp, by simp⟩, by simp, by simp⟩

end DriveHealth
