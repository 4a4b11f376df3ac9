/-
# What a verdict does not depend on

A drive with an attribute table is judged by the number of its bad sectors and by its first row that is
flagged (`Health.evaluate_congr`). So the lines it printed do not matter, and neither do rows that flag nothing
and count no sectors, wherever they stand. The order of the rows matters only for the choice of the first
flagged row: whether the drive is good and whether it has too many bad sectors can be told from the rows in
any order, as long as no counter of bad sectors stands twice.

Key definitions: `Attribute.Idle`, `Health.AtMostOnce`.
Key theorems: `Health.evaluate_congr`, `Health.badSectors_of_perm`, `Health.verdict_of_relevant_rows`.
-/
import DriveHealth.Proofs.Health.Verdicts
import DriveHealth.Proofs.Sequence

namespace DriveHealth

/-- The row flags nothing and counts no bad sectors. -/
def Attribute.Idle (a : Attribute) : Prop :=
  (a.verdict = .good ∨ a.verdict = .badStatus) ∧ a.id ≠ 5 ∧ a.id ≠ 197

instance (a : Attribute) : Decidable a.Idle :=
  inferInstanceAs (Decidable ((a.verdict = .good ∨ a.verdict = .badStatus) ∧ a.id ≠ 5 ∧ a.id ≠ 197))

namespace Health

variable {table table' core : List Attribute} {lines lines' : List String} {size : UInt64} {id : Nat}

/-- No two rows have this id. -/
def AtMostOnce (id : Nat) (table : List Attribute) : Prop := table.countP (fun a => a.id = id) ≤ 1

instance (id : Nat) (table : List Attribute) : Decidable (AtMostOnce id table) :=
  inferInstanceAs (Decidable (table.countP (fun a => a.id = id) ≤ 1))

theorem tooManySectors_congr (h : badSectors table' = badSectors table) :
    TooManySectors table' size ↔ TooManySectors table size := by
  rw [TooManySectors, TooManySectors, h]

/-- Bad sectors and the first flagged row make the verdict on a drive with a table. -/
theorem evaluate_congr (hne : table ≠ []) (hne' : table' ≠ []) (hsectors : badSectors table' = badSectors table)
    (hflagged : firstFlagged? table' = firstFlagged? table) :
    evaluate table' lines' size = evaluate table lines size := by
  by_cases hmany : TooManySectors table size
  · rw [evaluate_of_tooMany hne hmany, evaluate_of_tooMany hne' ((tooManySectors_congr hsectors).mpr hmany)]
  have hmany' : ¬ TooManySectors table' size := mt (tooManySectors_congr hsectors).mp hmany
  rcases hfirst : firstFlagged? table with _ | a
  · rw [evaluate_of_unflagged hne hmany hfirst, evaluate_of_unflagged hne' hmany' (hflagged.trans hfirst), hsectors]
  · rw [evaluate_of_flagged hmany hfirst, evaluate_of_flagged hmany' (hflagged.trans hfirst)]

/-! ### Idle rows -/

theorem rawOf_of_interspersed (h : Interspersed Attribute.Idle core table) (hid : id = 5 ∨ id = 197) :
    rawOf id table = rawOf id core := by
  rw [rawOf, h.find?_eq fun a ha => ?_, rawOf]
  rcases hid with rfl | rfl
  · exact decide_eq_false ha.2.1
  · exact decide_eq_false ha.2.2

theorem badSectors_of_interspersed (h : Interspersed Attribute.Idle core table) :
    badSectors table = badSectors core := by
  rw [badSectors_eq_bmod, badSectors_eq_bmod, rawOf_of_interspersed h (.inl rfl),
    rawOf_of_interspersed h (.inr rfl)]

theorem firstFlagged?_of_interspersed (h : Interspersed Attribute.Idle core table) :
    firstFlagged? table = firstFlagged? core := by
  refine h.find?_eq fun a ha => ?_
  rcases ha.1 with hv | hv <;> rw [hv] <;> rfl

/-! ### The order of the rows -/

/-- A search for what stands at most once does not depend on the order. -/
theorem find?_eq_of_perm {α : Type} {xs ys : List α} {p : α → Bool} (h : ys.Perm xs) (hone : xs.countP p ≤ 1) :
    ys.find? p = xs.find? p := by
  have hperm := h.filter p
  rw [List.countP_eq_length_filter] at hone
  have hfilter : ys.filter p = xs.filter p := by
    rcases hxs : xs.filter p with _ | ⟨a, _ | ⟨b, rest⟩⟩
    · rw [hxs] at hperm
      exact hperm.eq_nil
    · rw [hxs] at hperm
      exact List.perm_singleton.mp hperm
    · rw [hxs] at hone
      simp at hone
  rw [← List.head?_filter, ← List.head?_filter, hfilter]

theorem rawOf_of_perm (h : table'.Perm table) (hone : AtMostOnce id table) : rawOf id table' = rawOf id table := by
  rw [rawOf, find?_eq_of_perm h hone, rawOf]

theorem badSectors_of_perm (h : table'.Perm table) (hreallocated : AtMostOnce 5 table)
    (hpending : AtMostOnce 197 table) : badSectors table' = badSectors table := by
  rw [badSectors_eq_bmod, badSectors_eq_bmod, rawOf_of_perm h hreallocated, rawOf_of_perm h hpending]

theorem firstFlagged?_of_unflagged (h : ∀ a ∈ table, a.verdict = .good ∨ a.verdict = .badStatus) :
    firstFlagged? table = none := by
  refine List.find?_eq_none.mpr fun a ha => ?_
  rcases h a ha with hv | hv <;> rw [hv] <;> decide

/-- **What the verdict on a drive with a table does not depend on.** It is the same for all lines printed
beside the table. It is the same when rows that flag nothing and count no bad sectors are put in or taken out,
at any places, as long as a row is left. And if no counter of bad sectors stands twice, any order of the rows
gives a good drive or gives none, has too many bad sectors or has not, and gets the same verdict when no row
is flagged. -/
theorem verdict_of_relevant_rows (rows : List String) (size : UInt64) (hne : Attribute.table rows ≠ []) :
    let table := Attribute.table rows
    (∀ lines lines', evaluate table lines size = evaluate table lines' size) ∧
    (∀ core table' lines, Interspersed Attribute.Idle core table → Interspersed Attribute.Idle core table' →
      table' ≠ [] → evaluate table' lines size = evaluate table lines size) ∧
    (∀ table' lines, table'.Perm table → AtMostOnce 5 table → AtMostOnce 197 table →
      (evaluate table' lines size = .good ↔ evaluate table lines size = .good) ∧
      (evaluate table' lines size = .badSectorMany ↔ evaluate table lines size = .badSectorMany) ∧
      ((∀ a ∈ table, a.verdict = .good ∨ a.verdict = .badStatus) →
        evaluate table' lines size = evaluate table lines size)) := by
  intro table
  refine ⟨fun lines lines' => evaluate_congr hne hne rfl rfl, fun core table' lines hcore hcore' hne' => ?_,
    fun table' lines hperm hreallocated hpending => ?_⟩
  · refine evaluate_congr hne hne' ?_ ?_
    · rw [badSectors_of_interspersed hcore, badSectors_of_interspersed hcore']
    · rw [firstFlagged?_of_interspersed hcore, firstFlagged?_of_interspersed hcore']
  have hne' : table' ≠ [] := fun hnil => hne (List.nil_perm.mp (hnil ▸ hperm))
  have hjudged : ∀ a ∈ table, a.verdict = a.assess := fun _ => Attribute.verdict_of_mem_table
  have hjudged' : ∀ a ∈ table', a.verdict = a.assess := fun a ha => hjudged a (hperm.mem_iff.mp ha)
  have hsectors := badSectors_of_perm hperm hreallocated hpending
  refine ⟨?_, ?_, fun hquiet => evaluate_congr hne hne' hsectors ?_⟩
  · rw [evaluate_eq_good hjudged hne, evaluate_eq_good hjudged' hne', hsectors]
    simp only [hperm.mem_iff]
  · rw [evaluate_eq_badSectorMany hjudged hne, evaluate_eq_badSectorMany hjudged' hne',
      tooManySectors_congr hsectors]
  · have hquiet' : ∀ a ∈ table', a.verdict = .good ∨ a.verdict = .badStatus :=
      fun a ha => hquiet a (hperm.mem_iff.mp ha)
    rw [firstFlagged?_of_unflagged hquiet, firstFlagged?_of_unflagged hquiet']

/-- An idle row and replaced sectors: the idle row and the order of the rows can be left out of account. -/
theorem verdict_of_relevant_rows_of_replaced_sectors :
    let table := Attribute.table [
      "  1 Raw_Read_Error_Rate     POSR--   100   100   ---    -    0",
      "  5 Reallocated_Sector_Ct   PO--CK   100   100   010    -    8"]
    table ≠ [] ∧
      evaluate table.tail ["SMART Health Status: OK"] 1000204886016 = evaluate table [] 1000204886016 ∧
      (evaluate table.reverse [] 1000204886016 = .good ↔ evaluate table [] 1000204886016 = .good) := by
  intro table
  obtain ⟨hne, hrest, hreallocated, hpending⟩ :
      table ≠ [] ∧ table.tail ≠ [] ∧ AtMostOnce 5 table ∧ AtMostOnce 197 table := by decide +kernel
  have hrow : (table.head hne).Idle := by decide +kernel +revert
  have hput : Interspersed Attribute.Idle table.tail table := by
    rw [← List.cons_head_tail hne, List.tail_cons]
    exact .put hrow (.refl _ _)
  obtain ⟨hlines, hidle, horder⟩ := verdict_of_relevant_rows _ 1000204886016 hne
  refine ⟨hne, ?_, (horder table.reverse [] (List.reverse_perm table) hreallocated hpending).1⟩
  exact (hidle table.tail table.tail _ hput (.refl _ _) hrest).trans (hlines _ _)

end Health

end DriveHealth
