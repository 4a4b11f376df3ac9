/-
# Printed rows of the attribute table

A row that is printed is a row again. Its columns are filled with spaces to their width, and a column that
is wider moves the others to the right; either way it can be cut where it was put together. The numbers come
back without their leading zeros, and in the place of the column that tells when the attribute failed stands
the label of the verdict.

Key definitions: `Attribute.IsReading`, `Attribute.asPrinted`, `Attribute.Cut.printed`.
Key theorems: `Attribute.ofLine?_eq_some_iff`, `Attribute.ofLine?_attributeRow`, `printed_table_reads_back`.
-/
import DriveHealth.Proofs.CommandLine.Inspection
import DriveHealth.Proofs.Rows.FreeText

namespace DriveHealth

/-! ### Printed cells -/

namespace Text

variable {gap blanks text : List Char}

/-- No other way to cut the text beats the best one. -/
theorem LastCell.IsBest.not_beats {c d : LastCell} (hbest : c.IsBest) (hd : d.Fits)
    (hwhole : d.whole = c.whole) : ¬ d.Beats c := by
  intro hbeats
  unfold Beats at hbeats
  rcases hbest d hd hwhole with rfl | hloses
  · omega
  · unfold Beats at hloses
    omega

/-- The spaces that fill a cell up to the width of its column. -/
def spaces (width : Nat) (s : String) : List Char := List.replicate (width - s.length) ' '

theorem toList_fill (width : Nat) (s : String) : (fill width s).toList = spaces width s := String.toList_ofList

theorem isBlanks_spaces (width : Nat) (s : String) : IsBlanks (spaces width s) := by
  intro c hc
  rw [List.eq_of_mem_replicate hc]
  decide

theorem IsGap.before (h : IsGap gap) (hblanks : IsBlanks blanks) : IsGap (blanks ++ gap) :=
  ⟨by simp [h.1], isBlanks_append.mpr ⟨hblanks, h.2⟩⟩

theorem IsGap.after (h : IsGap gap) (hblanks : IsBlanks blanks) : IsGap (gap ++ blanks) :=
  ⟨by simp [h.1], isBlanks_append.mpr ⟨h.2, hblanks⟩⟩

/-- A last cell with no blanks after it is best when its text is trimmed or one blank. -/
theorem LastCell.isBest_of_trimmed_or_pad (hgap : IsGap gap) (h : IsTrimmed text ∨ IsPad text) :
    (⟨gap, text, []⟩ : LastCell).IsBest := by
  rcases h with htrimmed | ⟨x, rfl, -, -⟩
  · refine LastCell.isBest_of_trimmed ?_ htrimmed.back
    rw [whole_eq, takeWhile_run hgap.2]
    rw [List.append_nil]
    exact htrimmed.front
  · exact LastCell.isBest_of_blank rfl (by simp)

end Text

namespace Attribute

open Text

variable {a b : Attribute} {c : Cut} {line : String}

/-! ### Attributes and their columns -/

/-- Columns yield one attribute. -/
theorem Cut.Yields.unique (ha : c.Yields a) (hb : c.Yields b) : a = b := by
  have hid : a.id = b.id := ha.id.trans hb.id.symm
  have hname : a.name = b.name := String.toList_injective (ha.name.trans hb.name.symm)
  have hflags : a.flags = b.flags := String.toList_injective (ha.flags.trans hb.flags.symm)
  have hvalue : a.value = b.value := ha.value.trans hb.value.symm
  have hworst : a.worst = b.worst := ha.worst.trans hb.worst.symm
  have hthreshold : a.threshold = b.threshold := ha.threshold.trans hb.threshold.symm
  have hwhenFailed : a.whenFailed = b.whenFailed :=
    String.toList_injective (ha.whenFailed.trans hb.whenFailed.symm)
  have hrawValue : a.rawValue = b.rawValue := String.toList_injective (ha.rawValue.trans hb.rawValue.symm)
  have hprefailure : a.isPrefailure = b.isPrefailure :=
    Bool.eq_iff_iff.mpr (ha.isPrefailure.trans hb.isPrefailure.symm)
  have hdescription : a.description = b.description := by rw [ha.description, hb.description, hid]
  have hverdict : a.verdict = b.verdict := by
    rw [ha.verdict, hb.verdict, assess, assess, rawNumber, rawNumber, hprefailure, hid, hvalue, hworst,
      hthreshold, hrawValue]
  cases a
  cases b
  simp only at hid hname hflags hvalue hworst hthreshold hwhenFailed hrawValue hprefailure hdescription hverdict
  simp only [hid, hname, hflags, hvalue, hworst, hthreshold, hwhenFailed, hrawValue, hprefailure, hdescription,
    hverdict]

/-- The attribute on a line is what the best way to cut it yields. -/
theorem ofLine?_eq_some_iff :
    ofLine? line = some a ↔ ∃ c : Cut, c.IsRowOf line ∧ c.last.IsBest ∧ c.Yields a := by
  constructor
  · intro h
    obtain ⟨columns, hread, ha⟩ := Option.bind_eq_some_iff.mp h
    obtain ⟨c, hc, htext, rfl, hbest⟩ := exists_cut hread
    obtain ⟨hrow, hyields⟩ := yields_of_ofColumns? hc ha
    exact ⟨c, ⟨hrow, htext⟩, hbest, hyields⟩
  · rintro ⟨c, hc, hbest, hyields⟩
    obtain ⟨b, hb⟩ := exists_of_isRowOf hc
    obtain ⟨d, hd, hdbest, hdyields⟩ := exists_row hb
    obtain ⟨-, hlast⟩ := Cut.eq_of_text_eq hc.1.decimals.isSpaced hd.1.decimals.isSpaced (hc.2.trans hd.2.symm)
    rcases hdbest c hc with rfl | hbeats
    · rw [hb, hyields.unique hdyields]
    · exact absurd hbeats (hbest.not_beats hd.1.last hlast)

/-! ### Printed rows -/

/-- The attribute as its printed row shows it: with its verdict where it was told when it failed. -/
def asPrinted (a : Attribute) : Attribute := { a with whenFailed := a.verdict.label }

/-- The columns of the printed row, with the spaces that fill them. -/
def Cut.printed (a : Attribute) : Cut where
  margin := spaces 3 (toString a.id)
  id := ⟨(toString a.id).toList, [' ']⟩
  name := ⟨a.name.toList, spaces 26 a.name ++ [' ']⟩
  flags := ⟨a.flags.toList, spaces 7 a.flags ++ ([' '] ++ spaces 5 (toString a.value))⟩
  value := ⟨(toString a.value).toList, [' '] ++ spaces 5 (toString a.worst)⟩
  worst := ⟨(toString a.worst).toList, [' '] ++ spaces 5 (toString a.threshold)⟩
  threshold := ⟨(toString a.threshold).toList, [' '] ++ [' ']⟩
  whenFailed := a.verdict.label.toList
  last := ⟨spaces 26 a.verdict.label ++ [' '], a.rawValue.toList, []⟩

theorem Cut.text_printed (a : Attribute) : (Cut.printed a).text = (Report.attributeRow a).toList := by
  simp [Cut.printed, Cut.text, Cell.text, LastCell.whole, Report.attributeRow, Report.nameCells,
    Report.attributeValues, Report.valueCells, padLeft, padRight, toList_fill]

/-- The attribute is one that a line can hold. -/
structure IsReading (a : Attribute) : Prop where
  id : a.id < UInt32.size
  name : IsWord a.name.toList
  flags : IsFlagWord a.flags.toList
  value : a.value < UInt32.size
  worst : a.worst < UInt32.size
  threshold : a.threshold < UInt32.size
  rawValue : IsFreeText a.rawValue.toList
  trimmed : IsTrimmed a.rawValue.toList ∨ IsPad a.rawValue.toList
  isPrefailure : a.isPrefailure = true ↔ 'P' ∈ a.flags.toList ∨ 'p' ∈ a.flags.toList
  description : a.description = describe a.id
  verdict : a.verdict = a.assess

theorem isReading_of_ofLine? (h : ofLine? line = some a) : a.IsReading := by
  obtain ⟨c, hc, hbest, hyields⟩ := ofLine?_eq_some_iff.mp h
  have hrow := hc.1
  exact {
    id := hyields.id ▸ hrow.id.1.2.2
    name := hyields.name ▸ hrow.name.1
    flags := hyields.flags ▸ hrow.flags.1
    value := hyields.value ▸ hrow.value.1.2.2
    worst := hyields.worst ▸ hrow.worst.1.2.2
    threshold := by
      rw [hyields.threshold]
      split_ifs with hdash
      · decide
      · exact (hrow.threshold.1.resolve_right hdash).2.2
    rawValue := hyields.rawValue ▸ hrow.last.text
    trimmed := hyields.rawValue ▸ hbest.trimmed_or_pad hrow.last
    isPrefailure := hyields.flags ▸ hyields.isPrefailure
    description := hyields.description
    verdict := hyields.verdict }

/-- A verdict's label is one word. -/
theorem isWord_label (v : Verdict) : IsWord v.label.toList := by
  have hblank : v.label.toList.all (fun c => !isBlank c) = true := by cases v <;> decide
  refine ⟨by cases v <;> decide, fun c hc => ?_⟩
  simpa using List.all_eq_true.mp hblank c hc

theorem IsReading.fits (h : a.IsReading) : (Cut.printed a).Fits (Numeral.IsBelow UInt32.size) where
  margin := isBlanks_spaces _ _
  id := ⟨Numeral.isBelow_toString h.id, isGap_space⟩
  name := ⟨h.name, isGap_space.before (isBlanks_spaces _ _)⟩
  flags := ⟨h.flags, (isGap_space.after (isBlanks_spaces _ _)).before (isBlanks_spaces _ _)⟩
  value := ⟨Numeral.isBelow_toString h.value, isGap_space.after (isBlanks_spaces _ _)⟩
  worst := ⟨Numeral.isBelow_toString h.worst, isGap_space.after (isBlanks_spaces _ _)⟩
  threshold := ⟨.inl (Numeral.isBelow_toString h.threshold), isGap_space.after isGap_space.2⟩
  whenFailed := isWord_label _
  last := ⟨isGap_space.before (isBlanks_spaces _ _), h.rawValue, List.forall_mem_nil _⟩

/-- Dashes are no printed number. -/
theorem toString_ne_noThreshold (n : Nat) : (toString n).toList ≠ noThreshold := by
  intro h
  have hdash : '-' ∈ (toString n).toList := by
    rw [h]
    decide
  have hdigit := (Numeral.isBelow_toString n.lt_succ_self).2.1 _ hdash
  exact absurd hdigit (by decide)

theorem IsReading.yields (h : a.IsReading) : (Cut.printed a).Yields a.asPrinted where
  id := (Numeral.value_toString _).symm
  name := rfl
  flags := rfl
  value := (Numeral.value_toString _).symm
  worst := (Numeral.value_toString _).symm
  threshold := (Numeral.value_toString _).symm.trans (if_neg (toString_ne_noThreshold _)).symm
  whenFailed := rfl
  rawValue := rfl
  isPrefailure := h.isPrefailure
  description := h.description
  verdict := h.verdict

/-- A printed row is read as the attribute that it shows. -/
theorem IsReading.ofLine?_attributeRow (h : a.IsReading) :
    ofLine? (Report.attributeRow a) = some a.asPrinted :=
  ofLine?_eq_some_iff.mpr ⟨Cut.printed a, ⟨h.fits, Cut.text_printed a⟩,
    LastCell.isBest_of_trimmed_or_pad (isGap_space.before (isBlanks_spaces _ _)) h.trimmed, h.yields⟩

/-- A row is printed on one line. -/
theorem IsReading.not_feed_mem (h : a.IsReading) : '\n' ∉ (Report.attributeRow a).toList := by
  have hword {w : List Char} (hw : IsWord w) : '\n' ∉ w := fun hmem => by
    have hblank := hw.2 _ hmem
    exact absurd hblank (by decide)
  have hnumber (n : Nat) : '\n' ∉ (toString n).toList :=
    hword (Numeral.isBelow_toString n.lt_succ_self).isDecimals.isWord
  have hspaces (width : Nat) (s : String) : '\n' ∉ spaces width s := fun hmem =>
    absurd (List.eq_of_mem_replicate hmem) (by decide)
  rw [← Cut.text_printed]
  simp only [Cut.text, Cut.printed, Cell.text, LastCell.whole, List.mem_append, List.mem_cons, List.not_mem_nil,
    hword h.name, hword h.flags.isWord, hword (isWord_label _), hnumber, hspaces, h.rawValue.2, or_false,
    show ¬ '\n' = ' ' by decide, not_false_iff]

theorem isReading_of_mem_table {lines : List String} (h : a ∈ table lines) : a.IsReading := by
  obtain ⟨line, -, hline⟩ := List.mem_filterMap.mp h
  exact isReading_of_ofLine? hline

/-- The rows of a table that is printed are its attributes. -/
theorem table_rows {attributes : List Attribute} (h : ∀ a ∈ attributes, a.IsReading) :
    table (attributes.map Report.attributeRow) = attributes.map asPrinted := by
  rw [table, List.filterMap_map, ← List.filterMap_eq_map]
  exact List.filterMap_congr fun a ha => (h a ha).ofLine?_attributeRow

theorem ofLine?_attributeHeader : ofLine? Report.attributeHeader = none := by decide +kernel

theorem ofLine?_noTable : ofLine? "No SMART attribute table." = none := by decide +kernel

end Attribute

open Attribute in
/-- **A printed table can be read.** The printed row of an attribute that was read from a line is read as the
same attribute, with its verdict where it was told when it failed; the header is no row, and neither is the
line that stands for an empty table. So the lines that are printed for a table hold the same table, in order.
They are what a job prints that is asked for the attributes, when smartctl's run is accepted. -/
theorem printed_table_reads_back {σ : Type} :
    (∀ line a, ofLine? line = some a →
      ofLine? (Report.attributeRow a) = some { a with whenFailed := a.verdict.label }) ∧
    ofLine? Report.attributeHeader = none ∧ ofLine? "No SMART attribute table." = none ∧
    (∀ lines, ∃ rows, Report.attributeTable (table lines) = Report.printed rows ∧
      (∀ row ∈ rows, '\n' ∉ row.toList) ∧
      table rows = (table lines).map fun a => { a with whenFailed := a.verdict.label }) ∧
    (∀ (runner : Runner σ) (place : Place) (memory : σ) (args : List String) (o : Options) (config : Config)
      (path : String) (run : Run), Options.parse args = .ok o → o.mode = .attributes → Flag.config ∉ o.flags →
      o.device = some path → Job.loadConfig place o = .ok config →
      (runner (Step.attributes.call (Job.monitor place o config path)) memory).1 = .ok run →
      isFatal run.status = false →
      (Job.run runner place memory args).output = Report.attributeTable (table run.lines)) := by
  refine ⟨fun line a h => (isReading_of_ofLine? h).ofLine?_attributeRow, ofLine?_attributeHeader,
    ofLine?_noTable, fun lines => ?_, ?_⟩
  · by_cases hempty : table lines = []
    · refine ⟨["No SMART attribute table."], ?_, ?_, ?_⟩
      · rw [hempty]
        rfl
      · decide
      · rw [hempty, table, List.filterMap_cons_none ofLine?_noTable]
        rfl
    · have hreading : ∀ a ∈ table lines, a.IsReading := fun a ha => isReading_of_mem_table ha
      refine ⟨Report.attributeHeader :: (table lines).map Report.attributeRow, ?_, ?_, ?_⟩
      · rw [Report.attributeTable, if_neg (by simpa using hempty)]
      · rw [List.forall_mem_cons, List.forall_mem_map]
        exact ⟨by decide, fun a ha => (hreading a ha).not_feed_mem⟩
      · rw [table, List.filterMap_cons_none ofLine?_attributeHeader]
        exact table_rows hreading
  · intro runner place memory args o config path run hparse hmode hconfig hdevice hload hrun hfatal
    have haccepted : (Mode.attributes.step.call (Job.monitor place o config path)).judge
        (runner (Mode.attributes.step.call (Job.monitor place o config path)) memory).1 = .ok run :=
      Call.judge_eq_ok.mpr ⟨hrun, hfatal⟩
    rw [Job.run_eq_inspect hparse hconfig hdevice hload, hmode, Job.inspect_of_accepted place _ haccepted]
    rfl

/-- A name wider than its column, a threshold of dashes, a number with zeros before it, and a raw value with
blanks in it. -/
example :
    (Attribute.ofLine? "194 Temperature_Celsius_Of_The_Whole_Drive po- 064 50 --- -   36  (Min 20)").map
      Report.attributeRow = some ("194 Temperature_Celsius_Of_The_Whole_Drive po-        64    50     0  "
        ++ "BAD_STATUS                 36  (Min 20)") := by
  decide +kernel

end DriveHealth
