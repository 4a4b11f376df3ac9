/-
# Inspecting a drive

Once its arguments and its configuration are read, a job that concerns a device asks one question in a
new session, and prints what the accepted lines answer. Without accepted lines it ends with the failure,
for which the power mode alone has a word to print.

Key definitions: `Mode.step`, `Mode.print`, `Mode.onFailure`.
Key theorems: `Mode.answer_of_accepted`, `Mode.answer_of_failed`, `Job.run_eq_inspect`,
`Job.inspect_of_accepted`, `Job.inspect_of_failed`.
-/
import DriveHealth.CommandLine.Job
import DriveHealth.Proofs.Monitor.Transition

namespace DriveHealth

variable {σ : Type} {runner : Runner σ} {m : Monitor} {mode : Mode} {memory : σ} {run : Run} {e : Failure}

namespace Mode

/-- The step that the mode asks. -/
def step : Mode → Step
  | json | page => .collect
  | check => .overallStatus
  | attributes => .attributes
  | selfTests => .selfTests
  | information => .information
  | temperature => .temperature
  | powerMode => .powerMode
  | extended => .extendedText

/-- What the mode prints of lines that were accepted. -/
def print (m : Monitor) (stamp : String) (lines : List String) : Mode → Printout
  | json => .line (Report.dump (Reading.snapshot m lines) stamp)
  | check => Report.checkLine m (Reading.verdict m.device.size lines)
  | attributes => ⟨Report.attributeTable (Attribute.table lines), 0⟩
  | selfTests => ⟨Report.selfTestTable (SelfTest.log lines), 0⟩
  | information => ⟨Report.informationTable (Information.ofLines lines), 0⟩
  | temperature => .line (Report.temperatureCell (Reading.temperature lines))
  | powerMode => .line (Reading.powerMode lines)
  | extended => .line (Text.joinLines lines)
  | page => ⟨Report.page (Reading.snapshot m lines) stamp, 0⟩

/-- What a failure leads to: the power mode alone prints a word for it. -/
def onFailure (e : Failure) : Mode → Except Failure Printout
  | powerMode => .ok (.line Power.errorMode)
  | _ => .error e

/-- An accepted run is all that a mode needs. -/
theorem answer_of_accepted (stamp : String)
    (hr : (mode.step.call m).judge (runner (mode.step.call m) memory).1 = .ok run) :
    ∃ events, mode.answer runner m stamp ⟨.empty, memory, [], []⟩ =
      (.ok (mode.print m stamp run.lines), ⟨.filled mode.step.kind run.lines,
        (runner (mode.step.call m) memory).2, [mode.step.call m], events⟩) := by
  have hfetch (events : List Event) : mode.step.fetchLines runner m ⟨.empty, memory, [], events⟩ =
      (.ok run.lines, ⟨.filled mode.step.kind run.lines, (runner (mode.step.call m) memory).2,
        [mode.step.call m], events ++ m.warnings run⟩) := by
    refine Step.fetchLines_of_accepted (s := ⟨.empty, memory, [], events⟩) ?_ hr
    cases mode <;> rfl
  cases mode with
  | json | page =>
    exact ⟨_, Query.bind_of_ok (Snapshot.collect_of_ok (hfetch []) (Cache.lookup_filled _ _)) _⟩
  | check =>
    have hread := Monitor.read_of_ok (hfetch ([] ++ m.sizeWarning)) (Reading.verdict m.device.size)
    have hverdict := Monitor.overallStatus_apply runner m ⟨.empty, memory, [], []⟩
    exact ⟨_, Query.bind_of_ok (hverdict.trans hread) _⟩
  | powerMode => exact ⟨_, Query.bind_of_ok (Query.recover_of_ok (Monitor.read_of_ok (hfetch []) _) _) _⟩
  | extended => exact ⟨_, Query.bind_of_ok (Query.bind_of_ok (hfetch []) _) _⟩
  | _ => exact ⟨_, Query.bind_of_ok (Monitor.read_of_ok (hfetch []) _) _⟩

/-- A mode asks once, so that a failure settles it. -/
theorem answer_of_failed (stamp : String)
    (hr : (mode.step.call m).judge (runner (mode.step.call m) memory).1 = .error e) :
    ∃ events, mode.answer runner m stamp ⟨.empty, memory, [], []⟩ =
      (mode.onFailure e, ⟨.empty, (runner (mode.step.call m) memory).2, [mode.step.call m], events⟩) := by
  have hfetch (events : List Event) : mode.step.fetchLines runner m ⟨.empty, memory, [], events⟩ =
      (.error e, ⟨.empty, (runner (mode.step.call m) memory).2, [mode.step.call m], events⟩) := by
    have hempty : mode.step.afterFailure .empty = .empty := by cases mode <;> rfl
    have hfailed := Step.fetchLines_of_failed (s := ⟨.empty, memory, [], events⟩) (by cases mode <;> rfl) hr
    rwa [hempty] at hfailed
  cases mode with
  | json | page => exact ⟨_, Query.bind_of_error (Snapshot.collect_of_error (hfetch [])) _⟩
  | check =>
    have hread := Monitor.read_of_error (hfetch ([] ++ m.sizeWarning)) (Reading.verdict m.device.size)
    have hverdict := Monitor.overallStatus_apply runner m ⟨.empty, memory, [], []⟩
    exact ⟨_, Query.bind_of_error (hverdict.trans hread) _⟩
  | powerMode =>
    exact ⟨_, Query.bind_of_ok (Query.recover_of_error (Monitor.read_of_error (hfetch []) _) _) _⟩
  | extended => exact ⟨_, Query.bind_of_error (Query.bind_of_error (hfetch []) _) _⟩
  | _ => exact ⟨_, Query.bind_of_error (Monitor.read_of_error (hfetch []) _) _⟩

end Mode

namespace Job

/-- Arguments that name a device, and do not ask for the configuration, have it inspected. -/
theorem run_eq_inspect {place : Place} {args : List String} {o : Options} {config : Config} {path : String}
    (hparse : Options.parse args = .ok o) (hconfig : Flag.config ∉ o.flags) (hdevice : o.device = some path)
    (hload : loadConfig place o = .ok config) :
    Job.run runner place memory args =
      inspect runner place memory o.mode (monitor place o config path) (configToWrite place o) := by
  have hcontains : ¬ o.flags.contains .config = true := by simpa using hconfig
  simp only [Job.run, hparse, hload, hdevice]
  rw [if_neg hcontains]

theorem inspect_of_accepted (place : Place) (written : Option String)
    (hr : (mode.step.call m).judge (runner (mode.step.call m) memory).1 = .ok run) :
    let stamp := if mode = .json then place.jsonStamp else place.pageStamp
    let printout := mode.print m stamp run.lines
    inspect runner place memory mode m written =
      ⟨printout.exitStatus, printout.text, none, [mode.step.call m], written⟩ := by
  intro stamp printout
  obtain ⟨events, hanswer⟩ := Mode.answer_of_accepted stamp hr
  simp only [inspect]
  rw [hanswer]

theorem inspect_of_failed (place : Place) (written : Option String)
    (hr : (mode.step.call m).judge (runner (mode.step.call m) memory).1 = .error e) :
    inspect runner place memory mode m written =
      if mode = .powerMode then ⟨0, Power.errorMode ++ "\n", none, [mode.step.call m], written⟩
      else ⟨1, "", some (chainText (mode.context m ++ e.message :: e.cause?.toList)), [mode.step.call m],
        written⟩ := by
  obtain ⟨events, hanswer⟩ :=
    Mode.answer_of_failed (if mode = .json then place.jsonStamp else place.pageStamp) hr
  simp only [inspect]
  rw [hanswer]
  cases mode <;> rfl

end Job

end DriveHealth
