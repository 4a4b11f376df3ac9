/-
# The calls of a job

A job makes one call at most. It makes none when the configuration is asked for or a named configuration
cannot be had, and one otherwise, whichever modes are asked for and however the call ends.

Key theorems: `Options.mode_eq_extended`, `Job.loadConfig_fails_iff`, `job_starts_one_call`.
-/
import DriveHealth.Proofs.CommandLine.Arguments
import DriveHealth.Proofs.CommandLine.Failures

namespace DriveHealth

variable {σ : Type}

/-- The text of all that smartctl can tell is printed when it is asked for and no other mode is. -/
theorem Options.mode_eq_extended {o : Options} : o.mode = .extended ↔ Flag.extended ∈ o.flags ∧
    ∀ f ∈ [Flag.json, .check, .attributes, .selfTests, .information, .temperature, .powerMode],
      f ∉ o.flags := by
  have hsplit : Flag.modes = Flag.modes.take 7 ++ (.extended, .extended) :: [] := rfl
  rw [Options.mode_eq_iff hsplit]
  simp [Flag.modes]

/-- Only the text of all that smartctl can tell asks for more than the default output. -/
theorem Mode.kind_eq_all {mode : Mode} : mode.step.kind = .all ↔ mode = .extended := by
  cases mode <;> decide

theorem Mode.call_step (m : Monitor) (mode : Mode) :
    mode.step.call m = m.callFor mode.step.kind m.nocheck m.device.typeHint := by
  cases mode <;> rfl

namespace Job

variable {runner : Runner σ} {place : Place} {memory : σ} {args : List String} {o : Options}

/-- Only a file that is named can fail a job: it cannot be read or is no configuration. -/
theorem loadConfig_fails_iff :
    (∀ config, loadConfig place o ≠ .ok config) ↔
      ∃ file, o.configFile = some file ∧ ∀ text, place.textOf file = .ok text → Config.parse? text = none := by
  rcases hfile : o.configFile with _ | file
  · simp [loadConfig, hfile]
  · rcases htext : place.textOf file with cause | text
    · simp [loadConfig, hfile, htext]
    · cases hparse : Config.parse? text <;> simp [loadConfig, parseFile, hfile, htext, hparse]

/-- One call is made of a drive that is inspected. -/
theorem calls_inspect (mode : Mode) (m : Monitor) (written : Option String) :
    (inspect runner place memory mode m written).calls = [mode.step.call m] := by
  rcases hr : (mode.step.call m).judge (runner (mode.step.call m) memory).1 with e | run
  · rw [inspect_of_failed place written hr]
    split <;> rfl
  · rw [inspect_of_accepted place written hr]

/-- Without a configuration nothing is called. -/
theorem calls_run_of_not_loaded (hparse : Options.parse args = .ok o)
    (hload : ∀ config, loadConfig place o ≠ .ok config) :
    (Job.run runner place memory args).calls = [] := by
  simp only [Job.run, hparse]
  split
  · rfl
  · rename_i config hconfig
    exact absurd hconfig (hload config)

/-- To show the configuration nothing is called. -/
theorem calls_run_of_config (hparse : Options.parse args = .ok o) (hconfig : Flag.config ∈ o.flags) :
    (Job.run runner place memory args).calls = [] := by
  have hcontains : o.flags.contains .config = true := by simpa using hconfig
  simp only [Job.run, hparse, hcontains]
  split <;> rfl

end Job

/-- **What a job calls.** Take arguments that are accepted: they spell options, of which none is given twice.
When the configuration cannot be had, because the file that is named cannot be read or is no configuration,
nothing is called; nor is it when the configuration is asked for. Otherwise there is a device, and whatever
else is asked for and however the call ends, just one call is made, of the configured program. It asks for
all that smartctl can tell when its text is asked for and no other mode is. The power state in which the
drive is left alone and the type of the device are those of the options, or else those of the configuration,
where the type stands under the very path of the device. -/
theorem job_starts_one_call (runner : Runner σ) (place : Place) (memory : σ) (args : List String) {o : Options}
    (hparse : Options.parse args = .ok o) :
    let finish := Job.run runner place memory args
    let extendedAlone := Flag.extended ∈ o.flags ∧
      ∀ f ∈ [Flag.json, .check, .attributes, .selfTests, .information, .temperature, .powerMode], f ∉ o.flags
    (∃ items, Options.Spells args items ∧ Options.Holds items o) ∧
    ((∀ config, Job.loadConfig place o ≠ .ok config) ↔ ∃ file, o.configFile = some file ∧
      ∀ text, place.textOf file = .ok text → Config.parse? text = none) ∧
    ((∀ config, Job.loadConfig place o ≠ .ok config) → finish.calls = []) ∧
    ∀ config, Job.loadConfig place o = .ok config →
      (Flag.config ∈ o.flags → finish.calls = []) ∧
      (Flag.config ∉ o.flags → ∃ path kind, o.device = some path ∧
        (kind = .all ↔ extendedAlone) ∧
        finish.calls = [⟨config.program, Call.arguments kind (o.nocheck.or config.nocheck)
          (o.deviceType.or (config.typeHints.lookup path)) path⟩]) := by
  intro finish extendedAlone
  refine ⟨Options.exists_items_of_parse hparse, Job.loadConfig_fails_iff, Job.calls_run_of_not_loaded hparse,
    fun config hload => ⟨Job.calls_run_of_config hparse, fun hconfig => ?_⟩⟩
  obtain ⟨path, hdevice⟩ := Option.ne_none_iff_exists'.mp ((Options.parse_eq_ok_iff.mp hparse).2 hconfig)
  have hkind : o.mode.step.kind = .all ↔ extendedAlone := by
    rw [Mode.kind_eq_all]
    exact Options.mode_eq_extended
  refine ⟨path, o.mode.step.kind, hdevice, hkind, ?_⟩
  simp only [finish]
  rw [Job.run_eq_inspect hparse hconfig hdevice hload, Job.calls_inspect, Mode.call_step]
  rfl

/-- A text is asked for of a drive with its own type, and the call does not start. -/
theorem job_starts_one_call_of_extended_text :
    let runner : Runner Unit := fun call memory => (.error (.notStarted call.text ""), memory)
    let text := "[general]\nnocheck = \"standby\"\n[devices.type_hints]\n\"/dev/sda\" = \"sat\"\n"
    let place : Place := ⟨fun _ => .error "", none, some text, fun _ => 0, "", ""⟩
    (Job.run runner place () ["--extended", "-nsleep", "/dev/sda"]).calls =
      [⟨"smartctl", ["-x", "-n", "sleep", "-d", "sat", "/dev/sda"]⟩] := by
  intro runner text place
  let o : Options := { device := some "/dev/sda", nocheck := some "sleep", flags := [.extended] }
  have hparse : Options.parse ["--extended", "-nsleep", "/dev/sda"] = .ok o := rfl
  let config : Config := { nocheck := some "standby", typeHints := [("/dev/sda", "sat")] }
  have hload : Job.loadConfig place o = .ok config := by decide +kernel
  obtain ⟨-, -, -, hall⟩ := job_starts_one_call runner place () _ hparse
  obtain ⟨path, kind, hpath, hkind, hcalls⟩ := (hall config hload).2 (by decide)
  cases hpath
  cases hkind.mpr (by decide)
  exact hcalls

end DriveHealth
