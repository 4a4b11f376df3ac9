/-
# Growing counters

A raw number that grows can only tell of a failure. It makes a row fail that did not fail before, it lets no
row off, and it adds to the bad sectors, as long as these do not wrap around. What tells of the past stands in
the other columns. So when counters grow and nothing else changes, the exit status of a check stays as it was or
becomes 2.

Key definitions: `Attribute.GrowsTo`.
Key theorems: `Attribute.GrowsTo.failed`, `Attribute.GrowsTo.past_iff`, `Health.firstFlagged_past_of_grown`,
`Health.badSectors_le_of_grown`, `Health.exitStatus_of_growing_counters`.
-/
import DriveHealth.Proofs.Health.Verdicts
import Mathlib.Data.List.Forall2

namespace DriveHealth

namespace Attribute

/-- The rows differ in their raw values alone, as far as a verdict goes, and the raw number of the second is
no less. -/
structure GrowsTo (a b : Attribute) : Prop where
  id : b.id = a.id
  isPrefailure : b.isPrefailure = a.isPrefailure
  value : b.value = a.value
  worst : b.worst = a.worst
  threshold : b.threshold = a.threshold
  rawNumber : a.rawNumber ≤ b.rawNumber

namespace GrowsTo

variable {a b : Attribute}

theorem comparable_iff (h : GrowsTo a b) : b.Comparable ↔ a.Comparable := by
  rw [Comparable, Comparable, h.isPrefailure, h.threshold]

/-- A row that failed goes on to fail. -/
theorem failed (h : GrowsTo a b) (ha : a.Failed) : b.Failed := by
  have hraw := h.rawNumber
  rw [Failed, h.comparable_iff, h.value, h.worst, h.threshold, h.id, h.isPrefailure]
  rcases ha with ⟨hc, hvalue | ⟨hvalue, hworst, hid, hsectors⟩⟩ | ⟨hp, hid, herrors⟩
  · exact .inl ⟨hc, .inl hvalue⟩
  · exact .inl ⟨hc, .inr ⟨hvalue, hworst, hid, by omega⟩⟩
  · exact .inr ⟨hp, hid, by omega⟩

/-- The raw number says nothing of the past. -/
theorem past_iff (h : GrowsTo a b) : b.Past ↔ a.Past := by
  rw [Past, Past, h.comparable_iff, h.value, h.worst, h.threshold]

theorem flagged (h : GrowsTo a b) (ha : a.Flagged) : b.Flagged := ha.imp h.failed h.past_iff.mpr

end GrowsTo

end Attribute

namespace Health

variable {table table' : List Attribute} {a : Attribute} {P : Attribute → Prop}

theorem rawOf_cons {id : Nat} : rawOf id (a :: table) = if a.id = id then a.rawNumber else rawOf id table := by
  by_cases h : a.id = id <;> simp [rawOf, h]

theorem rawOf_le_of_grown (h : List.Forall₂ Attribute.GrowsTo table table') (id : Nat) :
    rawOf id table ≤ rawOf id table' := by
  induction h with
  | nil => exact Int.le_refl _
  | cons hrow _ ih =>
    rw [rawOf_cons, rawOf_cons, hrow.id]
    split
    · exact hrow.rawNumber
    · exact ih

/-- Bad sectors grow with their counters as long as the sums fit. -/
theorem badSectors_le_of_grown (h : List.Forall₂ Attribute.GrowsTo table table') (hfit : SectorsFit table)
    (hfit' : SectorsFit table') : badSectors table ≤ badSectors table' := by
  rw [badSectors_of_fit hfit, badSectors_of_fit hfit']
  exact Int.add_le_add (rawOf_le_of_grown h 5) (rawOf_le_of_grown h 197)

theorem tooManySectors_of_le {size : UInt64} (h : badSectors table ≤ badSectors table')
    (hmany : TooManySectors table size) : TooManySectors table' size := by
  obtain ⟨allowance, hallowance, hle⟩ := hmany
  exact ⟨allowance, hallowance, Int.le_trans hle h⟩

theorem not_flagged_of_grown (h : List.Forall₂ Attribute.GrowsTo table table')
    (hrows : ∀ b ∈ table', ¬ b.Flagged) : ∀ a ∈ table, ¬ a.Flagged := by
  induction h with
  | nil => exact hrows
  | cons hrow _ ih =>
    obtain ⟨hfirst, hrest⟩ := List.forall_mem_cons.mp hrows
    exact List.forall_mem_cons.mpr ⟨fun ha => hfirst (hrow.flagged ha), ih hrest⟩

theorem firstFlagged_cons :
    FirstFlagged (a :: table) P ↔ P a ∨ (¬ a.Flagged ∧ FirstFlagged table P) := by
  constructor
  · rintro ⟨before, x, after, heq, hx, hbefore⟩
    cases before with
    | nil =>
      cases heq
      exact .inl hx
    | cons b before =>
      cases heq
      obtain ⟨ha, hrest⟩ := List.forall_mem_cons.mp hbefore
      exact .inr ⟨ha, before, x, after, rfl, hx, hrest⟩
  · rintro (ha | ⟨ha, before, x, after, rfl, hx, hbefore⟩)
    · exact ⟨[], a, table, rfl, ha, by simp⟩
    · exact ⟨a :: before, x, after, rfl, hx, List.forall_mem_cons.mpr ⟨ha, hbefore⟩⟩

/-- If the first row that is flagged tells of the past, it did so before the counters grew: a row that they
flag fails. -/
theorem firstFlagged_past_of_grown (h : List.Forall₂ Attribute.GrowsTo table table')
    (hpast : FirstFlagged table' Attribute.Past) : FirstFlagged table Attribute.Past := by
  induction h with
  | nil => exact hpast
  | cons hrow _ ih =>
    rw [firstFlagged_cons] at hpast ⊢
    rcases hpast with hfirst | ⟨hnot, hrest⟩
    · exact .inl (hrow.past_iff.mp hfirst)
    · exact .inr ⟨fun ha => hnot (hrow.flagged ha), ih hrest⟩

/-- **A check gets no better when counters grow.** Take two tables that agree in all but their raw values, and
in which no raw number of the first exceeds that of the second. As long as the bad sectors of both add up within
64 bits, the second has the same exit status or 2, which is the worst. -/
theorem exitStatus_of_growing_counters {table table' : List Attribute}
    (hrows : List.Forall₂ Attribute.GrowsTo table table') (hjudged : ∀ a ∈ table, a.verdict = a.assess)
    (hjudged' : ∀ a ∈ table', a.verdict = a.assess) (hfit : SectorsFit table) (hfit' : SectorsFit table')
    (lines : List String) (size : UInt64) :
    let status := (evaluate table lines size).exitStatus
    let status' := (evaluate table' lines size).exitStatus
    status ≤ status' ∧ (status' = status ∨ status' = 2) := by
  intro status status'
  obtain ⟨hzero, hone, -⟩ := exitStatus_evaluate hjudged lines size
  obtain ⟨hzero', hone', -⟩ := exitStatus_evaluate hjudged' lines size
  have hnil : table = [] ↔ table' = [] := by cases hrows <;> simp
  have hsectors := badSectors_le_of_grown hrows hfit hfit'
  have hmany : ¬ TooManySectors table' size → ¬ TooManySectors table size := mt (tooManySectors_of_le hsectors)
  have hgood : status' = 0 → status = 0 := by
    intro h
    rcases hzero'.mp h with ⟨hempty, hhealthy⟩ | ⟨hne, hnone, hfew, hspare⟩
    · exact hzero.mpr (.inl ⟨hnil.mpr hempty, hhealthy⟩)
    · exact hzero.mpr (.inr ⟨mt hnil.mp hne, not_flagged_of_grown hrows hnone, Int.le_trans hsectors hfew, hmany hspare⟩)
  have hwarning : status' = 1 → status = 1 := by
    intro h
    rcases hone'.mp h with ⟨hempty, hsilent⟩ | ⟨hne, hspare, hpast⟩
    · exact hone.mpr (.inl ⟨hnil.mpr hempty, hsilent⟩)
    · exact hone.mpr (.inr ⟨mt hnil.mp hne, hmany hspare, firstFlagged_past_of_grown hrows hpast⟩)
  have hle (v : Verdict) : v.exitStatus ≤ 2 := by cases v <;> decide
  have hstatus : status ≤ 2 := hle _
  have hstatus' : status' ≤ 2 := hle _
  omega

/-- A drive whose spin-up was once slow finds its first reallocated sectors, on a row before that one. -/
theorem exitStatus_of_first_reallocated_sectors :
    let sectors (raw : String) (verdict : Verdict) : Attribute :=
      ⟨5, "Reallocated_Sector_Ct", "PO--CK", 100, 100, 10, "-", raw, "", true, verdict⟩
    let spinUp : Attribute := ⟨3, "Spin_Up_Time", "POS--K", 100, 20, 21, "-", "0", "", true, .badAttributeInThePast⟩
    (evaluate [sectors "0" .good, spinUp] [] 1000204886016).exitStatus ≤
      (evaluate [sectors "8 (2 6)" .badSector, spinUp] [] 1000204886016).exitStatus := by
  intro sectors spinUp
  have hgrown : (sectors "0" .good).GrowsTo (sectors "8 (2 6)" .badSector) :=
    ⟨rfl, rfl, rfl, rfl, rfl, by decide +kernel⟩
  have hsame : spinUp.GrowsTo spinUp := ⟨rfl, rfl, rfl, rfl, rfl, Int.le_refl _⟩
  exact (exitStatus_of_growing_counters (.cons hgrown (.cons hsame .nil)) (by decide +kernel)
    (by decide +kernel) (by decide +kernel) (by decide +kernel) [] 1000204886016).1

end Health

end DriveHealth
