/-
# Which readings are checked

A reading from the attribute table is one that a working sensor can give. A reading from a line is not checked:
the first line that states a temperature is believed whatever it states, and every number of 32 bits is stated by
some line. So a drive without a table whose sensor gives garbage is reported with the garbage.

Key definitions: `Temperature.Parts.printed`.
Key theorems: `Temperature.ofAttributes_sane`, `Temperature.States.no_attribute`,
`Temperature.sane_unless_from_a_line`, `Temperature.garbage_read_from_a_line`.
-/
import DriveHealth.Monitor.Queries
import DriveHealth.Proofs.Temperature.Lines
import DriveHealth.Proofs.Temperature.Priority

namespace DriveHealth.Temperature

open Text

variable {table : List Attribute} {lines : List String} {line : String} {t : Int32}

theorem ofAttributes_sane (h : ofAttributes table = some t) : -15 ≤ t.toInt ∧ t.toInt ≤ 100 := by
  obtain ⟨i, a, hfirst⟩ := isFirst_of_firstReading? (ofAttributes_eq_some.mp h)
  exact ⟨hfirst.shows.low, hfirst.shows.high⟩

theorem resolve_of_ne_nil (h : table ≠ []) : resolve table lines = ofAttributes table := by
  rw [resolve, if_neg (by simpa using h)]

/-! ### Lines that state a temperature -/

/-- A line that states the temperature `t`. -/
def Parts.printed (t : Int32) : Parts where
  margin := []
  label := "Temperature:"
  gap := [' ']
  isNegative := t.toInt < 0
  digits := (toString t.toInt.natAbs).toList
  unitGap := [' ']
  unit := "Celsius"
  rest := []

theorem states_printed (t : Int32) : States (String.ofList (Parts.printed t).text) t := by
  have hdigits := Numeral.isBelow_toString t.toInt.natAbs.lt_succ_self
  refine ⟨Parts.printed t, ?_, String.toList_ofList.symm, hdigits.2.1, ?_⟩
  · exact ⟨List.forall_mem_nil _, .inr (.inr rfl), isGap_space.2, hdigits.isDecimals, isGap_space, .inr rfl, rfl⟩
  · simp only [Parts.number, Parts.printed, Numeral.value_toString, decide_eq_true_eq]
    split <;> omega

/-- A line that starts with a label is no row, since a row starts with a number. -/
theorem States.no_attribute (h : States line t) : Attribute.ofLine? line = none := by
  obtain ⟨p, hfits, htext, -⟩ := h
  refine Option.eq_none_iff_forall_ne_some.mpr fun a ha => ?_
  obtain ⟨columns, hread, -⟩ := Option.bind_eq_some_iff.mp ha
  obtain ⟨⟨token, rest⟩, hcolumn, -⟩ := Option.bind_eq_some_iff.mp hread
  obtain ⟨hnumber, -, cell, rfl, hcell, hsplit⟩ := column?_eq_some hcolumn
  rw [← htext, Parts.text, trimStart_run hfits.margin (stops_label hfits _)] at hsplit
  obtain ⟨d, digits, hd⟩ := List.exists_cons_of_ne_nil hcell.1.1
  have hdecimal : isDecimal d = true := List.all_eq_true.mp hnumber d (hd ▸ List.mem_cons_self)
  have hletter := stops_append_of_head (label_starts_with_letter p.label (mem_lineLabels.mpr hfits.label)).2
    (p.gap ++ (p.sign ++ (p.digits ++ (p.unitGap ++ (p.unit.toList ++ p.rest)))))
  rw [hsplit, Cell.text, hd] at hletter
  rw [stops_cons.mp hletter] at hdecimal
  cases hdecimal

theorem temperature_of_states (h : States line t) : Reading.temperature [line] = some t := by
  have htable : Attribute.table [line] = [] := by
    rw [Attribute.table, List.filterMap_cons_none h.no_attribute, List.filterMap_nil]
  rw [Reading.temperature, htable]
  exact ofLines_eq_some.mpr ⟨[], line, [], rfl, h, List.forall_mem_nil _⟩

/-- **Only readings from a table are checked.** The temperature of a drive is sure to be one from -15 to 100 when the
drive has a table, and without a table just when the first line that states a temperature states such a one. That
line is believed without any bound, and each number of 32 bits is the temperature of a drive that prints it. -/
theorem sane_unless_from_a_line (table : List Attribute) (lines : List String) :
    ((∀ t, resolve table lines = some t → -15 ≤ t.toInt ∧ t.toInt ≤ 100) ↔
      table ≠ [] ∨ ∀ t, FirstStates lines t → -15 ≤ t.toInt ∧ t.toInt ≤ 100) ∧
    (∀ t, resolve [] lines = some t ↔ FirstStates lines t) ∧
    ∀ t : Int32, (∃ line, States line t) ∧ ∀ line, States line t → Reading.temperature [line] = some t := by
  have hlines (t : Int32) : resolve [] lines = some t ↔ FirstStates lines t := ofLines_eq_some
  refine ⟨?_, hlines, fun t => ⟨⟨_, states_printed t⟩, fun line => temperature_of_states⟩⟩
  by_cases htable : table = []
  · subst htable
    simp only [hlines, ne_eq, not_true_eq_false, false_or]
  · refine iff_of_true (fun t h => ?_) (.inl htable)
    rw [resolve_of_ne_nil htable] at h
    exact ofAttributes_sane h

/-- A sensor that reports all ones, in kelvins, is believed to be hotter than 100 degrees. -/
theorem garbage_read_from_a_line :
    ¬ ∀ table lines t, resolve table lines = some t → -15 ≤ t.toInt ∧ t.toInt ≤ 100 := by
  intro hsane
  have hread : resolve [] ["Temperature:                        65262 Celsius"] = some 65262 := by decide +kernel
  exact absurd (hsane _ _ _ hread).2 (by decide)

end DriveHealth.Temperature
