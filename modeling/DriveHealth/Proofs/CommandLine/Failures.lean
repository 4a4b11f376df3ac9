/-
# Jobs whose run fails

smartctl may not start, it may be killed, or it may end with bit 0 or 1 of its status set. Whatever it wrote
before, nothing of it is printed then: the job ends with the failure as its cause. Only the power mode, when
no stronger mode is asked for, prints a word in its place and ends well. A run that ends with both bits clear
never ends a job in this way.

Key definitions: `Finish.EndsWith`.
Key theorems: `Options.mode_eq_iff`, `Host.judge_of_accepted`, `failed_run_prints_nothing`.
-/
import DriveHealth.Proofs.CommandLine.Inspection
import DriveHealth.Smartctl.Host

namespace DriveHealth

/-! ### Modes -/

theorem Flag.modes_injective : ∀ p ∈ Flag.modes, ∀ q ∈ Flag.modes, p.2 = q.2 → p = q := by decide

/-- A mode is taken when its flag is given and none of a stronger mode is. -/
theorem Options.mode_eq_iff {o : Options} {before after : List (Flag × Mode)} {f : Flag} {mode : Mode}
    (h : Flag.modes = before ++ (f, mode) :: after) :
    o.mode = mode ↔ f ∈ o.flags ∧ ∀ p ∈ before, p.1 ∉ o.flags := by
  have hmem : (f, mode) ∈ Flag.modes := h ▸ List.mem_append_right _ List.mem_cons_self
  constructor
  · intro hmode
    rcases hfind : Flag.modes.find? (fun p => o.flags.contains p.1) with _ | p
    · -- without a flag the page is taken, which no flag asks for
      have hpage : ∀ p ∈ Flag.modes, p.2 ≠ .page := by decide
      rw [Options.mode, hfind] at hmode
      exact absurd hmode.symm (hpage _ hmem)
    · have hp : p = (f, mode) := by
        rw [Options.mode, hfind] at hmode
        exact Flag.modes_injective p (List.mem_of_find?_eq_some hfind) _ hmem hmode
      subst hp
      refine ⟨by simpa using List.find?_some hfind, fun q hq hgiven => ?_⟩
      -- a stronger flag would have been found before
      rw [h, List.find?_append] at hfind
      rcases hstronger : before.find? (fun p => o.flags.contains p.1) with _ | r
      · have hnot := List.find?_eq_none.mp hstronger q hq
        simp [hgiven] at hnot
      · rw [hstronger, Option.some_or] at hfind
        cases hfind
        have hnodup : Flag.modes.Nodup := by decide
        rw [h] at hnodup
        exact (List.nodup_append.mp hnodup).2.2 _ (List.mem_of_find?_eq_some hstronger) _ List.mem_cons_self rfl
  · rintro ⟨hf, hbefore⟩
    have hfind : Flag.modes.find? (fun p => o.flags.contains p.1) = some (f, mode) := by
      refine List.find?_eq_some_iff_append.mpr ⟨by simpa using hf, before, after, h, fun p hp => ?_⟩
      simpa using hbefore p hp
    rw [Options.mode, hfind]
    rfl

/-- The power mode is taken when it is asked for and no mode before it is. -/
theorem Options.mode_eq_powerMode {o : Options} : o.mode = .powerMode ↔ Flag.powerMode ∈ o.flags ∧
    ∀ f ∈ [Flag.json, .check, .attributes, .selfTests, .information, .temperature], f ∉ o.flags := by
  have hsplit : Flag.modes = Flag.modes.take 6 ++ (.powerMode, .powerMode) :: [(.extended, .extended)] := rfl
  rw [Options.mode_eq_iff hsplit]
  simp [Flag.modes]

/-! ### Programs -/

namespace Host

variable {host : Host} {call : Call} {p : Program} {status : UInt8}

theorem judge_of_not_found (hfind : host.find? call = none) :
    call.judge (host.runner call ()).1 = .error (.notStarted call.text (host.refusal call)) := by
  rw [runner, outcome, hfind]
  rfl

theorem judge_of_killed (hfind : host.find? call = some p) (hstatus : p.status = none) :
    call.judge (host.runner call ()).1 = .error (.killed call.text) := by
  rw [runner, outcome, hfind]
  simp only [Program.run?, hstatus]
  rfl

/-- A program that ends leaves a run with its lines. -/
theorem runner_of_ended (hfind : host.find? call = some p) (hstatus : p.status = some status) :
    (host.runner call ()).1 = .ok ⟨status, p.lines⟩ := by
  rw [runner, outcome, hfind]
  simp only [Program.run?, hstatus]
  rfl

theorem judge_of_fatal (hfind : host.find? call = some p) (hstatus : p.status = some status)
    (hbits : status.toNat.testBit 0 = true ∨ status.toNat.testBit 1 = true) :
    call.judge (host.runner call ()).1 = .error (.fatalStatus call.text p.lines status) := by
  rw [runner_of_ended hfind hstatus, Call.judge, if_pos (isFatal_iff.mpr hbits)]

theorem judge_of_accepted (hfind : host.find? call = some p) (hstatus : p.status = some status)
    (hbits : status.toNat.testBit 0 = false ∧ status.toNat.testBit 1 = false) :
    call.judge (host.runner call ()).1 = .ok ⟨status, p.lines⟩ := by
  have hfatal : ¬ isFatal status = true := by
    rw [isFatal_iff, hbits.1, hbits.2]
    decide
  rw [runner_of_ended hfind hstatus, Call.judge, if_neg hfatal]

end Host

/-! ### Jobs -/

/-- The job ends with this failure of its run. It prints nothing and tells the failure with its cause, but the
power mode prints a word for it and ends well. -/
def Finish.EndsWith (finish : Finish) (mode : Mode) (m : Monitor) (e : Failure) : Prop :=
  if mode = .powerMode then finish.output = "ERROR\n" ∧ finish.exitStatus = 0 ∧ finish.failure = none
  else finish.output = "" ∧ finish.exitStatus = 1 ∧
    finish.failure = some (Job.chainText (mode.context m ++ e.message :: e.cause?.toList))

theorem Job.endsWith_inspect {σ : Type} {runner : Runner σ} {memory : σ} {mode : Mode} {m : Monitor} {e : Failure}
    (place : Place) (written : Option String)
    (h : (mode.step.call m).judge (runner (mode.step.call m) memory).1 = .error e) :
    (inspect runner place memory mode m written).EndsWith mode m e := by
  rw [inspect_of_failed place written h, Finish.EndsWith]
  split
  · exact ⟨rfl, rfl, rfl⟩
  · exact ⟨rfl, rfl, rfl⟩

/-- **A job prints nothing when its run failed.** Take arguments that name a device and do not ask for the
configuration, with any configuration that loads. If smartctl cannot be started, or is killed, or ends with bit
0 or 1 of its status set, then whatever it wrote, nothing is printed, the exit status is 1, and the failure is
told: that the call did not start and why, that it was killed, or the status with which it ended. The power mode
alone, which is taken where its flag is given and none of the six before it, prints a word for the failure and
ends with 0. When smartctl ends with both bits clear, the job ends without a failure and prints what its mode
makes of smartctl's lines. -/
theorem failed_run_prints_nothing (host : Host) (place : Place) (args : List String) {o : Options}
    {config : Config} {path : String} (hparse : Options.parse args = .ok o) (hconfig : Flag.config ∉ o.flags)
    (hdevice : o.device = some path) (hload : Job.loadConfig place o = .ok config) :
    let m := Job.monitor place o config path
    let call := o.mode.step.call m
    let finish := Job.run host.runner place () args
    (o.mode = .powerMode ↔ Flag.powerMode ∈ o.flags ∧
      ∀ f ∈ [Flag.json, .check, .attributes, .selfTests, .information, .temperature], f ∉ o.flags) ∧
    (host.find? call = none → finish.EndsWith o.mode m (.notStarted call.text (host.refusal call))) ∧
    ∀ p, host.find? call = some p →
      (p.status = none → finish.EndsWith o.mode m (.killed call.text)) ∧
      ∀ status, p.status = some status →
        (status.toNat.testBit 0 = true ∨ status.toNat.testBit 1 = true →
          finish.EndsWith o.mode m (.fatalStatus call.text p.lines status)) ∧
        (status.toNat.testBit 0 = false ∧ status.toNat.testBit 1 = false →
          let printout := o.mode.print m (if o.mode = .json then place.jsonStamp else place.pageStamp) p.lines
          finish.failure = none ∧ finish.output = printout.text ∧ finish.exitStatus = printout.exitStatus) := by
  intro m call finish
  have hfinish : finish = Job.inspect host.runner place () o.mode m (Job.configToWrite place o) :=
    Job.run_eq_inspect hparse hconfig hdevice hload
  rw [hfinish]
  refine ⟨Options.mode_eq_powerMode, fun hfind => ?_, fun p hfind => ⟨fun hstatus => ?_,
    fun status hstatus => ⟨fun hbits => ?_, fun hbits => ?_⟩⟩⟩
  · exact Job.endsWith_inspect place _ (Host.judge_of_not_found hfind)
  · exact Job.endsWith_inspect place _ (Host.judge_of_killed hfind hstatus)
  · exact Job.endsWith_inspect place _ (Host.judge_of_fatal hfind hstatus hbits)
  · rw [Job.inspect_of_accepted place _ (Host.judge_of_accepted hfind hstatus hbits)]
    exact ⟨rfl, rfl, rfl⟩

/-- smartctl writes a line and ends with status 2, which a check does not print. -/
theorem check_of_refused_drive :
    let host : Host := ⟨[("smartctl", ⟨[79, 75, 10], [], some 2⟩)], ⟨[]⟩, []⟩
    let place : Place := ⟨fun _ => .error "", none, none, fun _ => 0, "", ""⟩
    let finish := Job.run host.runner place () ["--check", "--power-mode", "/dev/sda"]
    finish.output = "" ∧ finish.exitStatus = 1 ∧ finish.failure = some ("Error: reading SMART data for /dev/sda"
      ++ "\n\nCaused by:\n    'smartctl -A -f brief -i -H -l selftest /dev/sda' failed with exit status 0x02") := by
  intro host place
  have hparse : Options.parse ["--check", "--power-mode", "/dev/sda"] =
      .ok { device := some "/dev/sda", flags := [.check, .powerMode] } := rfl
  let p : Program := ⟨[79, 75, 10], [], some 2⟩
  have hfind : host.find? ⟨"smartctl", ["-A", "-f", "brief", "-i", "-H", "-l", "selftest", "/dev/sda"]⟩ = some p := by
    rw [Host.find?, if_pos (by decide +kernel)]
    rfl
  obtain ⟨-, -, hprogram⟩ := failed_run_prints_nothing host place _ hparse (by decide) rfl rfl
  obtain ⟨houtput, hstatus, hfailure⟩ := ((hprogram p hfind).2 2 rfl).1 (by decide)
  refine ⟨houtput, hstatus, hfailure.trans (congrArg some ?_)⟩
  decide +kernel

end DriveHealth
