/-
# When SMART is said to be missing

A drive is said to lack SMART in two cases: the last entry on SMART support in the section of its output says that
it is unavailable, or the output says nothing of the matter, with neither such an entry nor a line that gives the
outcome of a self-assessment. The message about a drive that was left asleep is an output of the second kind, so
that a drive with SMART is said to lack it as long as it sleeps.

Key definitions: `Health.GivesOutcome`, `Reading.TellsSupport`, `Reading.DeniesSupport`.
Key theorems: `Reading.isSupported_eq_false`, `Monitor.unsupported_iff_denied_or_silent`,
`Monitor.sleeping_drive_said_to_lack_smart`.
-/
import DriveHealth.Monitor.Queries
import DriveHealth.Proofs.Information.Lookup
import DriveHealth.Proofs.Monitor.Transition

namespace DriveHealth

variable {lines : List String} {line value : String}

/-- The line in small letters holds a text after which an outcome stands. -/
def Health.GivesOutcome (line : String) : Prop := ∃ text ∈ healthTexts, text.toList <:+: Text.lower line.toList

theorem Health.hasHealthLine_iff : hasHealthLine lines = true ↔ ∃ line ∈ lines, GivesOutcome line := by
  simp only [hasHealthLine, holdsAny, GivesOutcome, List.any_eq_true, Text.occursIn_iff]

namespace Reading

/-- The last entry on SMART support in the section has this value. -/
def TellsSupport (lines : List String) (value : String) : Prop := Information.Tells lines "smartsupportis" value

/-- The value in small letters starts with the word that stands for a lack of SMART. -/
def DeniesSupport (value : String) : Prop := "unavailable".toList <+: Text.lower value.toList

theorem support?_of_tells (h : TellsSupport lines value) : support? lines = some (Text.lower value.toList) := by
  rw [support?, (Information.get?_ofLines_eq_some (by decide)).mpr h, Option.map_some]

/-- What the entry says decides. -/
theorem isSupported_of_tells (h : TellsSupport lines value) : isSupported lines = false ↔ DeniesSupport value := by
  rw [DeniesSupport, ← List.isPrefixOf_iff_prefix, ← Bool.not_eq_false', isSupported, support?_of_tells h]

/-- Without an entry it matters whether some line gives an outcome. -/
theorem isSupported_of_silent (h : ∀ value, ¬ TellsSupport lines value) :
    isSupported lines = false ↔ ∀ line ∈ lines, ¬ Health.GivesOutcome line := by
  have hnone : support? lines = none := by
    rw [support?, (Information.get?_ofLines_eq_none (by decide)).mpr h, Option.map_none]
  rw [isSupported, hnone, ← Bool.not_eq_true, Health.hasHealthLine_iff]
  push Not
  rfl

theorem isSupported_eq_false : isSupported lines = false ↔
    (∃ value, TellsSupport lines value ∧ DeniesSupport value) ∨
    (∀ value, ¬ TellsSupport lines value) ∧ ∀ line ∈ lines, ¬ Health.GivesOutcome line := by
  by_cases htold : ∃ value, TellsSupport lines value
  · obtain ⟨value, hvalue⟩ := htold
    rw [isSupported_of_tells hvalue]
    constructor
    · exact fun hdenied => .inl ⟨value, hvalue, hdenied⟩
    · rintro (⟨other, hother, hdenied⟩ | ⟨hsilent, -⟩)
      · have hsame := (support?_of_tells hvalue).symm.trans (support?_of_tells hother)
        rwa [DeniesSupport, Option.some.inj hsame]
      · exact absurd hvalue (hsilent value)
  · have hsilent : ∀ value, ¬ TellsSupport lines value := not_exists.mp htold
    rw [isSupported_of_silent hsilent]
    constructor
    · exact fun hnone => .inr ⟨hsilent, hnone⟩
    · rintro (⟨value, hvalue, -⟩ | ⟨-, hnone⟩)
      · exact absurd hvalue (hsilent value)
      · exact hnone

end Reading

namespace Monitor

open Reading

/-- **Silence counts as a lack of SMART.** A drive is said to lack SMART exactly when its output is accepted and
either the last entry on SMART support in its section starts with the word for that, in letters of either case, or
the output has neither such an entry nor any line that gives the outcome of a self-assessment. -/
theorem unsupported_iff_denied_or_silent {σ : Type} (runner : Runner σ) (m : Monitor) (s : Session σ) :
    (m.isSupported runner s).1 = .ok false ↔ ∃ lines, (m.fetch runner .default s).1 = .ok lines ∧
      ((∃ value, TellsSupport lines value ∧ DeniesSupport value) ∨
        (∀ value, ¬ TellsSupport lines value) ∧ ∀ line ∈ lines, ¬ Health.GivesOutcome line) := by
  simp only [isSupported, read_eq_ok, isSupported_eq_false]

/-- A drive that is left asleep prints no section, and is said to lack SMART though no entry says so. -/
theorem sleeping_drive_said_to_lack_smart :
    ¬ ∀ (runner : Runner Unit) (m : Monitor) (s : Session Unit) (lines : List String),
      (m.fetch runner .default s).1 = .ok lines → (m.isSupported runner s).1 = .ok false →
      ∃ value, TellsSupport lines value ∧ DeniesSupport value := by
  intro honly
  let run : Run := ⟨0, ["smartctl 7.3 2022-02-28 r5338 [x86_64-linux-6.1.0] (local build)", "",
    "Device is in STANDBY mode, exit(0)"]⟩
  let m : Monitor := ⟨⟨"/dev/sda", none, 1000204886016⟩, "smartctl", some "standby,0"⟩
  have hfetch := fetch_always m .default (by decide : isFatal run.status = false)
  have hread : Reading.isSupported run.lines = false := by decide +kernel
  obtain ⟨value, htold, -⟩ := honly _ m _ run.lines hfetch (read_eq_ok.mpr ⟨run.lines, hfetch, hread⟩)
  obtain ⟨line, hline, hstart⟩ := htold.exists_start
  have hnone : ∀ line ∈ run.lines, Information.startsSection line = false := by decide +kernel
  exact Bool.noConfusion ((hnone line hline).symm.trans (Text.occursIn_iff.mpr hstart))

end Monitor

end DriveHealth
