/-
# What a verdict means

A row is flagged when it tells of a failure, now or in the past. A drive is judged by its first flagged
row, unless it has too many bad sectors; bad sectors that no row flags count at the end. Each rule is
stated on the columns of the rows, and the exit status of a check follows from them.

Key definitions: `Attribute.Failed`, `Attribute.Past`, `Attribute.Flagged`, `Health.SaysHealthy`,
`Health.SectorsFit`, `Health.TooManySectors`, `Health.FirstFlagged`.
Key theorems: `Attribute.isFailure_assess`, `Attribute.isFlagged_assess`, `Health.badSectors_of_fit`,
`Health.firstFlagged?_eq_some`, `Health.exitStatus_evaluate`, `Health.evaluate_eq_good`,
`Health.evaluate_eq_badSectorMany`.
-/
import DriveHealth.Attribute.Row
import DriveHealth.Health

namespace DriveHealth

/-! ### Rows -/

namespace Attribute

/-- The threshold says something of the row: it is neither 0 nor above 253. -/
def Comparable (a : Attribute) : Prop := a.isPrefailure = true ∧ 1 ≤ a.threshold ∧ a.threshold ≤ 253

/-- The row tells of a failing drive: by its value, by bad sectors, or by errors not corrected. -/
def Failed (a : Attribute) : Prop :=
  (a.Comparable ∧ (a.value ≤ a.threshold ∨
    (a.threshold < a.value ∧ a.threshold < a.worst ∧ (a.id = 5 ∨ a.id = 197) ∧ 1 ≤ a.rawNumber))) ∨
  (a.isPrefailure = false ∧ a.id = 187 ∧ 0 < a.rawNumber)

/-- The row tells of a drive that failed once. -/
def Past (a : Attribute) : Prop := a.Comparable ∧ a.worst ≤ a.threshold ∧ a.threshold < a.value

/-- The row tells of a failure. -/
def Flagged (a : Attribute) : Prop := a.Failed ∨ a.Past

instance (a : Attribute) : Decidable a.Comparable := inferInstanceAs (Decidable (_ ∧ _ ∧ _))

instance (a : Attribute) : Decidable a.Failed :=
  inferInstanceAs (Decidable (_ ∧ (_ ∨ _ ∧ _ ∧ _ ∧ _) ∨ _ ∧ _ ∧ _))

instance (a : Attribute) : Decidable a.Past := inferInstanceAs (Decidable (_ ∧ _ ∧ _))

instance (a : Attribute) : Decidable a.Flagged := inferInstanceAs (Decidable (_ ∨ _))

variable {a : Attribute} {lines : List String}

theorem assess_eq_of_not_prefailure (h : a.isPrefailure = false) :
    a.assess = if a.id = 187 ∧ 0 < a.rawNumber then .badAttributeNow else .good := by
  rw [assess, judge, h]
  rfl

theorem assess_eq_of_not_comparable (hp : a.isPrefailure = true) (h : ¬ a.Comparable) :
    a.assess = .badStatus := by
  have hthreshold : a.threshold < 1 ∨ 253 < a.threshold := by
    simp only [Comparable, hp, true_and] at h
    omega
  rw [assess, judge, hp, if_neg (by simp), if_pos hthreshold]

theorem assess_eq_of_comparable (h : a.Comparable) :
    a.assess =
      if a.value ≤ a.threshold then .badAttributeNow
      else if a.worst ≤ a.threshold then .badAttributeInThePast
      else if (a.id = 5 ∨ a.id = 197) ∧ 1 ≤ a.rawNumber then .badSector
      else .good := by
  obtain ⟨hp, hlow, hhigh⟩ := h
  rw [assess, judge, hp, if_neg (by simp), if_neg (by omega)]
  rfl

/-- A row fails by its verdict just when it does by its columns. -/
theorem isFailure_assess : a.assess.isFailure = true ↔ a.Failed := by
  unfold Failed
  by_cases hc : a.Comparable
  · rw [assess_eq_of_comparable hc]
    simp only [hc, hc.1, true_and, Bool.true_eq_false, false_and, or_false]
    split
    · simp [Verdict.isFailure, *]
    · split
      · simp only [Verdict.isFailure, Bool.false_eq_true, false_iff]
        omega
      · split
        · simp only [Verdict.isFailure, true_iff]
          omega
        · simp only [Verdict.isFailure, Bool.false_eq_true, false_iff]
          omega
  · simp only [hc, false_and, false_or]
    rcases hp : a.isPrefailure with _ | _
    · rw [assess_eq_of_not_prefailure hp]
      split <;> simp [Verdict.isFailure, *]
    · rw [assess_eq_of_not_comparable hp hc]
      simp [Verdict.isFailure]

theorem assess_eq_past : a.assess = .badAttributeInThePast ↔ a.Past := by
  unfold Past
  by_cases hc : a.Comparable
  · rw [assess_eq_of_comparable hc]
    simp only [hc, true_and]
    split
    · simp only [reduceCtorEq, false_iff]
      omega
    · split
      · simp only [true_iff]
        omega
      · split <;> simp <;> omega
  · simp only [hc, false_and, iff_false]
    rcases hp : a.isPrefailure with _ | _
    · rw [assess_eq_of_not_prefailure hp]
      split <;> simp
    · rw [assess_eq_of_not_comparable hp hc]
      simp

/-- No single row has too many bad sectors. -/
theorem assess_ne_many : a.assess ≠ .badSectorMany := by
  by_cases hc : a.Comparable
  · rw [assess_eq_of_comparable hc]
    split
    · simp
    · split
      · simp
      · split <;> simp
  · rcases hp : a.isPrefailure with _ | _
    · rw [assess_eq_of_not_prefailure hp]
      split <;> simp
    · rw [assess_eq_of_not_comparable hp hc]
      simp

theorem isFlagged_assess : Health.isFlagged a.assess = true ↔ a.Flagged := by
  rw [Flagged, ← isFailure_assess, ← assess_eq_past]
  cases a.assess <;> simp [Health.isFlagged, Verdict.isFailure]

/-- The rows of a table are judged by their columns. -/
theorem verdict_of_mem_table (h : a ∈ table lines) : a.verdict = a.assess := by
  obtain ⟨line, -, hline⟩ := List.mem_filterMap.mp h
  obtain ⟨c, -, hc⟩ := Option.bind_eq_some_iff.mp hline
  obtain ⟨id, -, hc⟩ := Option.bind_eq_some_iff.mp hc
  obtain ⟨value, -, hc⟩ := Option.bind_eq_some_iff.mp hc
  obtain ⟨worst, -, hc⟩ := Option.bind_eq_some_iff.mp hc
  dsimp only at hc
  split at hc
  all_goals
    obtain ⟨threshold, -, hc⟩ := Option.bind_eq_some_iff.mp hc
    cases hc
    rfl

end Attribute

/-! ### Exit statuses -/

namespace Verdict

variable {v : Verdict}

theorem exitStatus_eq_zero : v.exitStatus = 0 ↔ v = .good := by cases v <;> decide

theorem exitStatus_eq_one : v.exitStatus = 1 ↔ v = .badAttributeInThePast ∨ v = .badStatus := by
  cases v <;> decide

theorem exitStatus_eq_two : v.exitStatus = 2 ↔ v.isFailure = true := by cases v <;> decide

end Verdict

/-! ### Drives -/

namespace Health

/-- The line in small letters holds a text that says the drive is healthy. -/
def SaysHealthy (line : String) : Prop := ∃ text ∈ passingTexts, text.toList <:+: Text.lower line.toList

/-- The two counters of bad sectors add up within 64 bits with a sign. -/
def SectorsFit (table : List Attribute) : Prop :=
  -0x8000000000000000 ≤ rawOf 5 table + rawOf 197 table ∧
    rawOf 5 table + rawOf 197 table ≤ 0x7FFFFFFFFFFFFFFF

instance (table : List Attribute) : Decidable (SectorsFit table) := inferInstanceAs (Decidable (_ ∧ _))

/-- The drive has an allowance, and its bad sectors reach it. -/
def TooManySectors (table : List Attribute) (size : UInt64) : Prop :=
  ∃ allowance, sectorAllowance size = some allowance ∧ allowance ≤ badSectors table

/-- The first row that is flagged has the property. -/
def FirstFlagged (table : List Attribute) (P : Attribute → Prop) : Prop :=
  ∃ before a after, table = before ++ a :: after ∧ P a ∧ ∀ b ∈ before, ¬ b.Flagged

variable {table : List Attribute} {lines : List String} {size : UInt64} {a : Attribute}

/-- A sum that fits is the exact one. -/
theorem badSectors_of_fit (h : SectorsFit table) : badSectors table = rawOf 5 table + rawOf 197 table := by
  obtain ⟨hlow, hhigh⟩ := h
  rw [badSectors_eq_bmod]
  exact Int.bmod_eq_of_le (by simpa [Int64.size] using hlow) (by simp [Int64.size]; omega)

theorem hasPassingLine_iff : hasPassingLine lines = true ↔ ∃ line ∈ lines, SaysHealthy line := by
  simp only [hasPassingLine, holdsAny, SaysHealthy, List.any_eq_true, Text.occursIn_iff]

theorem tooManySectors_iff : tooManySectors table size = true ↔ TooManySectors table size := by
  simp only [tooManySectors, TooManySectors, Option.any_eq_true, decide_eq_true_eq]

/-- The first row that is flagged, if there is one. -/
def firstFlagged? (table : List Attribute) : Option Attribute := table.find? fun a => isFlagged a.verdict

theorem firstFlagged?_eq_some (h : ∀ a ∈ table, a.verdict = a.assess) :
    firstFlagged? table = some a ↔
      a.Flagged ∧ ∃ before after, table = before ++ a :: after ∧ ∀ b ∈ before, ¬ b.Flagged := by
  have hflagged {b : Attribute} (hb : b ∈ table) : isFlagged b.verdict = true ↔ b.Flagged := by
    rw [h b hb, Attribute.isFlagged_assess]
  rw [firstFlagged?, List.find?_eq_some_iff_append]
  constructor
  · rintro ⟨ha, before, after, rfl, hbefore⟩
    refine ⟨(hflagged (by simp)).mp ha, before, after, rfl, fun b hb hf => ?_⟩
    have hnot := hbefore b hb
    rw [(hflagged (List.mem_append_left _ hb)).mpr hf] at hnot
    cases hnot
  · rintro ⟨ha, before, after, rfl, hbefore⟩
    refine ⟨(hflagged (by simp)).mpr ha, before, after, rfl, fun b hb => ?_⟩
    rw [Bool.not_eq_true']
    exact Bool.eq_false_iff.mpr fun hf => hbefore b hb ((hflagged (List.mem_append_left _ hb)).mp hf)

theorem firstFlagged?_eq_none (h : ∀ a ∈ table, a.verdict = a.assess) :
    firstFlagged? table = none ↔ ∀ a ∈ table, ¬ a.Flagged := by
  rw [firstFlagged?, List.find?_eq_none]
  refine forall₂_congr fun a ha => ?_
  rw [h a ha, Attribute.isFlagged_assess]

theorem firstFlagged_iff {P : Attribute → Prop} (hP : ∀ a, P a → a.Flagged)
    (h : ∀ a ∈ table, a.verdict = a.assess) :
    FirstFlagged table P ↔ ∃ a, firstFlagged? table = some a ∧ P a := by
  constructor
  · rintro ⟨before, a, after, hsplit, ha, hbefore⟩
    exact ⟨a, (firstFlagged?_eq_some h).mpr ⟨hP a ha, before, after, hsplit, hbefore⟩, ha⟩
  · rintro ⟨a, hfirst, ha⟩
    obtain ⟨-, before, after, hsplit, hbefore⟩ := (firstFlagged?_eq_some h).mp hfirst
    exact ⟨before, a, after, hsplit, ha, hbefore⟩

/-! ### The rules in turn -/

theorem evaluate_of_nil : evaluate [] lines size = if hasPassingLine lines then .good else .badStatus := rfl

theorem evaluate_of_tooMany (h : table ≠ []) (hmany : TooManySectors table size) :
    evaluate table lines size = .badSectorMany := by
  rw [evaluate, if_neg (by simpa using h), if_pos (tooManySectors_iff.mpr hmany)]

theorem evaluate_of_flagged (hmany : ¬ TooManySectors table size) (hfirst : firstFlagged? table = some a) :
    evaluate table lines size = a.verdict := by
  have hne : table ≠ [] := by
    rintro rfl
    cases hfirst
  have hfind : (table.map Attribute.verdict).find? isFlagged = some a.verdict := by
    rw [List.find?_map]
    exact congrArg (Option.map Attribute.verdict) hfirst
  rw [evaluate, if_neg (by simpa using hne), if_neg (by rwa [tooManySectors_iff]), hfind]

theorem evaluate_of_unflagged (h : table ≠ []) (hmany : ¬ TooManySectors table size)
    (hfirst : firstFlagged? table = none) :
    evaluate table lines size = if 0 < badSectors table then .badSector else .good := by
  have hfind : (table.map Attribute.verdict).find? isFlagged = none := by
    rw [List.find?_map]
    exact congrArg (Option.map Attribute.verdict) hfirst
  rw [evaluate, if_neg (by simpa using h), if_neg (by rwa [tooManySectors_iff]), hfind]

/-- **The exit status of a check from the rows of the table.** It is 0 for a drive without fault, 2 for
one that is failing, and 1 for one that failed once or of which nothing is known. -/
theorem exitStatus_evaluate (h : ∀ a ∈ table, a.verdict = a.assess) (lines : List String) (size : UInt64) :
    let status := (evaluate table lines size).exitStatus
    (status = 0 ↔ (table = [] ∧ ∃ line ∈ lines, SaysHealthy line) ∨
      (table ≠ [] ∧ (∀ a ∈ table, ¬ a.Flagged) ∧ badSectors table ≤ 0 ∧ ¬ TooManySectors table size)) ∧
    (status = 1 ↔ (table = [] ∧ ¬ ∃ line ∈ lines, SaysHealthy line) ∨
      (table ≠ [] ∧ ¬ TooManySectors table size ∧ FirstFlagged table Attribute.Past)) ∧
    (status = 2 ↔ table ≠ [] ∧ (TooManySectors table size ∨ FirstFlagged table Attribute.Failed ∨
      ((∀ a ∈ table, ¬ a.Flagged) ∧ 0 < badSectors table))) := by
  intro status
  rw [firstFlagged_iff (fun _ => .inr) h, firstFlagged_iff (fun _ => .inl) h, ← firstFlagged?_eq_none h,
    Verdict.exitStatus_eq_zero, Verdict.exitStatus_eq_one, Verdict.exitStatus_eq_two]
  by_cases hnil : table = []
  · subst hnil
    rw [evaluate_of_nil, ← hasPassingLine_iff]
    by_cases hpass : hasPassingLine lines = true <;> simp [hpass, Verdict.isFailure]
  by_cases hmany : TooManySectors table size
  · rw [evaluate_of_tooMany hnil hmany]
    simp [hnil, hmany, Verdict.isFailure]
  rcases hfirst : firstFlagged? table with _ | a
  · rw [evaluate_of_unflagged hnil hmany hfirst]
    by_cases hsectors : 0 < badSectors table
    · rw [if_pos hsectors]
      simp [hnil, hmany, hsectors, Verdict.isFailure]
    · rw [if_neg hsectors]
      simp [hnil, hmany, hsectors, Verdict.isFailure, Int.not_lt.mp hsectors]
  · have hflagged : a.Flagged := ((firstFlagged?_eq_some h).mp hfirst).1
    have hmem : a ∈ table := List.mem_of_find?_eq_some hfirst
    obtain ⟨hgood, hstatus⟩ : a.assess ≠ .good ∧ a.assess ≠ .badStatus := by
      simpa [isFlagged] using Attribute.isFlagged_assess.mpr hflagged
    rw [evaluate_of_flagged hmany hfirst, h a hmem, Attribute.isFailure_assess, Attribute.assess_eq_past]
    simp [hnil, hmany, hgood, hstatus]

/-- A drive has some sectors to spare, so it never has too many without having any. -/
theorem not_tooManySectors (h : badSectors table ≤ 0) : ¬ TooManySectors table size := by
  rintro ⟨allowance, hallowance, hle⟩
  have hpos := sectorAllowance_pos hallowance
  omega

theorem evaluate_eq_good (hjudged : ∀ a ∈ table, a.verdict = a.assess) (hne : table ≠ []) :
    evaluate table lines size = .good ↔ (∀ a ∈ table, ¬ a.Flagged) ∧ badSectors table ≤ 0 := by
  obtain ⟨hzero, -, -⟩ := exitStatus_evaluate hjudged lines size
  rw [← Verdict.exitStatus_eq_zero, hzero]
  constructor
  · rintro (⟨hnil, -⟩ | ⟨-, hrows, hsectors, -⟩)
    · exact absurd hnil hne
    · exact ⟨hrows, hsectors⟩
  · rintro ⟨hrows, hsectors⟩
    exact .inr ⟨hne, hrows, hsectors, not_tooManySectors hsectors⟩

theorem evaluate_eq_badSectorMany (hjudged : ∀ a ∈ table, a.verdict = a.assess) (hne : table ≠ []) :
    evaluate table lines size = .badSectorMany ↔ TooManySectors table size := by
  by_cases hmany : TooManySectors table size
  · exact iff_of_true (evaluate_of_tooMany hne hmany) hmany
  refine iff_of_false ?_ hmany
  rcases hfirst : firstFlagged? table with _ | a
  · rw [evaluate_of_unflagged hne hmany hfirst]
    split <;> simp
  · rw [evaluate_of_flagged hmany hfirst, hjudged a (List.mem_of_find?_eq_some hfirst)]
    exact Attribute.assess_ne_many

end Health

end DriveHealth
