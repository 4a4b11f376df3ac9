/-
# The health check

The exit status of a check says what the rows of the drive's attribute table say, or its health line
when there is no table.

Key theorems: `check_exitStatus`.
-/
import DriveHealth.Proofs.CommandLine.Inspection
import DriveHealth.Proofs.Health.Verdicts
import Mathlib.Data.List.Basic

namespace DriveHealth

variable {σ : Type}

/-- **What the exit status of a check means.** Take an accepted run of smartctl, and the sum of the raw numbers of
the first rows that count reallocated and pending sectors, which fits 64 bits with a sign. A drive without a
table gets 0 if a line says that it is healthy, and 1 otherwise. A drive with a table gets 2 if the sum reaches
the allowance, if the first row that is flagged failed, or if no row is flagged but the sum is positive; it gets
1 if the first row that is flagged tells of the past, and 0 if none of this holds. -/
theorem check_exitStatus (runner : Runner σ) (place : Place) (memory : σ) (args : List String) {o : Options}
    {config : Config} {path : String} {run : Run} (hparse : Options.parse args = .ok o)
    (hmode : o.mode = .check) (hconfig : Flag.config ∉ o.flags) (hdevice : o.device = some path)
    (hload : Job.loadConfig place o = .ok config)
    (hrun : (runner (Step.overallStatus.call (Job.monitor place o config path)) memory).1 = .ok run)
    (hfatal : isFatal run.status = false) (hfit : Health.SectorsFit (Attribute.table run.lines)) :
    let status := (Job.run runner place memory args).exitStatus
    let table := Attribute.table run.lines
    let sectors := Health.rawOf 5 table + Health.rawOf 197 table
    let many := ∃ allowance, Health.sectorAllowance (o.size.getD (place.sizeOf path)) = some allowance ∧
      allowance ≤ sectors
    (status = 0 ↔ (table = [] ∧ ∃ line ∈ run.lines, Health.SaysHealthy line) ∨
      (table ≠ [] ∧ (∀ a ∈ table, ¬ a.Failed ∧ ¬ a.Past) ∧ sectors ≤ 0 ∧ ¬ many)) ∧
    (status = 1 ↔ (table = [] ∧ ¬ ∃ line ∈ run.lines, Health.SaysHealthy line) ∨
      (table ≠ [] ∧ ¬ many ∧ Health.FirstFlagged table Attribute.Past)) ∧
    (status = 2 ↔ table ≠ [] ∧ (many ∨ Health.FirstFlagged table Attribute.Failed ∨
      ((∀ a ∈ table, ¬ a.Failed ∧ ¬ a.Past) ∧ 0 < sectors))) := by
  intro status table sectors many
  have haccepted : (Mode.check.step.call (Job.monitor place o config path)).judge
      (runner (Mode.check.step.call (Job.monitor place o config path)) memory).1 = .ok run :=
    Call.judge_eq_ok.mpr ⟨hrun, hfatal⟩
  have hstatus : status =
      (Health.evaluate table run.lines (o.size.getD (place.sizeOf path))).exitStatus := by
    have hinspect := Job.inspect_of_accepted place (Job.configToWrite place o) haccepted
    simp only [status]
    rw [Job.run_eq_inspect hparse hconfig hdevice hload, hmode, hinspect]
    rfl
  have hsectors : Health.badSectors table = sectors := Health.badSectors_of_fit hfit
  have hjudged : ∀ a ∈ table, a.verdict = a.assess := fun _ => Attribute.verdict_of_mem_table
  have hmeaning := Health.exitStatus_evaluate hjudged run.lines (o.size.getD (place.sizeOf path))
  simp only [Health.TooManySectors, hsectors] at hmeaning
  simp only [← not_or]
  rw [hstatus]
  exact hmeaning

/-- A drive whose spin-up was once slow and whose seeks fail now: the earlier row decides. -/
theorem check_exitStatus_of_worn_drive :
    let run : Run := ⟨0, ["  3 Spin_Up_Time     POS--K   100   020   021    -    0",
      "  7 Seek_Error_Rate  POSR-K   010   010   021    -    0"]⟩
    let runner : Runner Unit := fun _ memory => (.ok run, memory)
    let place : Place := ⟨fun _ => .error "", none, none, fun _ => 1000204886016, "", ""⟩
    (Job.run runner place () ["--check", "/dev/sda"]).exitStatus = 1 := by
  intro run runner place
  have hparse : Options.parse ["--check", "/dev/sda"] =
      .ok { device := some "/dev/sda", flags := [.check] } := rfl
  obtain ⟨a, b, htable⟩ : ∃ a b, Attribute.table run.lines = [a, b] :=
    List.length_eq_two.mp (by decide +kernel)
  have hpast : ∀ x ∈ (Attribute.table run.lines).head?, x.Past := by decide +kernel
  obtain ⟨hsectors, hfit⟩ : Health.rawOf 5 (Attribute.table run.lines) + Health.rawOf 197 (Attribute.table run.lines) =
      0 ∧ Health.SectorsFit (Attribute.table run.lines) := by decide +kernel
  have hspare : ¬ ∃ allowance, Health.sectorAllowance 1000204886016 = some allowance ∧
      allowance ≤ Health.rawOf 5 (Attribute.table run.lines) + Health.rawOf 197 (Attribute.table run.lines) := by
    rintro ⟨allowance, hallowance, hle⟩
    have hpos := Health.sectorAllowance_pos hallowance
    omega
  rw [htable] at hpast
  have hfirst : Health.FirstFlagged (Attribute.table run.lines) Attribute.Past :=
    ⟨[], a, [b], htable, hpast a rfl, by simp⟩
  exact (check_exitStatus runner place () _ hparse rfl (by decide) rfl rfl rfl (by decide) hfit).2.1.mpr
    (.inr ⟨by simp [htable], hspare, hfirst⟩)

end DriveHealth
