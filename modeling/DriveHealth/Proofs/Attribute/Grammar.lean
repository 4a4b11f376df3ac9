/-
# The grammar of a table row

A line is a row if it can be cut into eight columns: seven cells and the last column, with blanks before
and after. All cells of a row are fixed by the line, so that two ways to cut it differ in the last column
only, and there the reader takes the best one. The numbers of a row have ASCII digits and 32 bits; a line
whose numbers have not is no row, though it has the shape of one.

Key definitions: `Attribute.Cut`, `Attribute.Cut.Fits`, `Attribute.Cut.IsRowOf`, `Attribute.Cut.Yields`,
`Attribute.IsRow`.
Key theorems: `Attribute.Cut.eq_of_text_eq`, `Attribute.read?_text`, `Attribute.exists_cut`,
`Attribute.isRow_iff`, `Attribute.table_reads_its_rows`.
-/
import DriveHealth.Proofs.Health.Verdicts
import DriveHealth.Proofs.Text.Cells
import DriveHealth.Text.Lower
import Mathlib.Data.List.Basic

namespace DriveHealth

namespace Attribute

open Text

/-! ### Flags -/

/-- One of the letters of the flags, in either case, or the dash. -/
def IsFlagLetter (c : Char) : Prop := ∃ l ∈ "POSRCK-".toList, foldCase c = foldCase l

/-- Flag letters, at least one, and after them at most one plus sign. -/
def IsFlagWord (s : List Char) : Prop :=
  ∃ letters plus, s = letters ++ plus ∧ letters ≠ [] ∧ (∀ c ∈ letters, IsFlagLetter c) ∧
    (plus = [] ∨ plus = ['+'])

/-- A capital of ASCII is one of the characters below 128. -/
theorem isFlagLetter_below_128 : ∀ n ∈ List.range 128,
    ("POSRCK-".toList.any fun l => foldCase (Char.ofNat n) = foldCase l) = true →
      flagChars.contains (Char.ofNat n) = true := by
  decide +kernel

theorem isFlagLetter_iff {c : Char} : IsFlagLetter c ↔ flagChars.contains c = true := by
  have hletters : (flagChars.all fun f => "POSRCK-".toList.any fun l => foldCase f = foldCase l) = true := by
    decide +kernel
  have hsmall : ("POSRCK-".toList.all fun l => flagChars.contains (foldCase l)) = true := by decide +kernel
  constructor
  · rintro ⟨l, hl, h⟩
    by_cases hlow : c.toNat < 128
    · have hof : Char.ofNat c.toNat = c := Char.ofNat_toNat c
      have hbelow := isFlagLetter_below_128 c.toNat (List.mem_range.mpr hlow)
      rw [hof] at hbelow
      exact hbelow (List.any_eq_true.mpr ⟨l, hl, by simpa using h⟩)
    · by_cases hlong : c = '\u017F'
      · rw [hlong]
        decide
      by_cases hkelvin : c = '\u212A'
      · rw [hkelvin]
        decide
      -- every other character beyond ASCII is its own small form
      have hcapital : ¬ (c.val ≥ 'A'.val ∧ c.val ≤ 'Z'.val) := by
        rintro ⟨-, hle⟩
        have hnat : c.toNat ≤ 90 := UInt32.le_iff_toNat_le.mp hle
        omega
      have hself : foldCase c = c := by
        unfold foldCase Char.toLower
        rw [if_neg hlong, if_neg hkelvin, dif_neg hcapital]
      rw [← hself, h]
      exact List.all_eq_true.mp hsmall l hl
  · intro h
    obtain ⟨l, hl, hfold⟩ := List.any_eq_true.mp (List.all_eq_true.mp hletters c (by simpa using h))
    exact ⟨l, hl, of_decide_eq_true hfold⟩

theorem isFlagWord_iff {s : List Char} : IsFlagWord s ↔ isFlags s = true := by
  have hplus : flagChars.contains '+' = false := by decide
  unfold isFlags
  dsimp only
  constructor
  · rintro ⟨letters, plus, rfl, hne, hall, hend⟩
    have hletters : letters.all flagChars.contains = true :=
      List.all_eq_true.mpr fun c hc => isFlagLetter_iff.mp (hall c hc)
    rcases hend with rfl | rfl
    · rw [List.append_nil]
      have hlast : ¬ letters.getLast? = some '+' := by
        intro hlast
        have hmem := List.all_eq_true.mp hletters '+' (List.mem_of_getLast? hlast)
        rw [hplus] at hmem
        cases hmem
      rw [if_neg hlast, hletters]
      simp [hne]
    · rw [List.getLast?_concat, if_pos rfl, List.dropLast_concat, hletters]
      simp [hne]
  · intro h
    simp only [Bool.and_eq_true, decide_eq_true_eq] at h
    obtain ⟨hne, hletters⟩ := h
    have hall : ∀ {t : List Char}, t.all flagChars.contains = true → ∀ c ∈ t, IsFlagLetter c :=
      fun ht c hc => isFlagLetter_iff.mpr (List.all_eq_true.mp ht c hc)
    split at hne
    · rename_i hlast
      rw [if_pos hlast] at hletters
      refine ⟨s.dropLast, ['+'], ?_, hne, hall hletters, .inr rfl⟩
      exact (List.dropLast_append_getLast? _ hlast).symm
    · rename_i hlast
      rw [if_neg hlast] at hletters
      exact ⟨s, [], (List.append_nil s).symm, hne, hall hletters, .inl rfl⟩

theorem IsFlagWord.isWord {s : List Char} (h : IsFlagWord s) : IsWord s := by
  have hletter : (flagChars.all fun l => !isBlank l) = true := by decide +kernel
  obtain ⟨letters, plus, rfl, hne, hall, hplus⟩ := h
  refine ⟨by simp [hne], fun c hc => ?_⟩
  rcases List.mem_append.mp hc with hc | hc
  · have hnot := List.all_eq_true.mp hletter c (by simpa using isFlagLetter_iff.mp (hall c hc))
    simpa using hnot
  · rcases hplus with rfl | rfl
    · cases hc
    · rw [List.mem_singleton.mp hc]
      decide

/-! ### Ways to cut a line -/

/-- A line cut into the columns of a row. -/
structure Cut where
  /-- The blanks before the first column. -/
  margin : List Char
  id : Cell
  name : Cell
  flags : Cell
  value : Cell
  worst : Cell
  threshold : Cell
  whenFailed : List Char
  /-- The raw value, with the gap before it and the blanks after it. -/
  last : LastCell

namespace Cut

/-- The line that is cut. -/
def text (c : Cut) : List Char :=
  c.margin ++ c.id.text ++ c.name.text ++ c.flags.text ++ c.value.text ++ c.worst.text ++ c.threshold.text ++
    c.whenFailed ++ c.last.whole

/-- The line up to the end of the column before the last one. -/
def front (c : Cut) : List Char :=
  c.margin ++ c.id.text ++ c.name.text ++ c.flags.text ++ c.value.text ++ c.worst.text ++ c.threshold.text ++
    c.whenFailed

/-- The columns are those of a row, whose numbers are in the class `number`. -/
structure Fits (number : List Char → Prop) (c : Cut) : Prop where
  margin : IsBlanks c.margin
  id : c.id.Holds number
  name : c.name.Holds IsWord
  flags : c.flags.Holds IsFlagWord
  value : c.value.Holds number
  worst : c.worst.Holds number
  threshold : c.threshold.Holds fun t => number t ∨ t = noThreshold
  whenFailed : IsWord c.whenFailed
  last : c.last.Fits

/-- The columns are words, with blanks between them. -/
structure IsSpaced (c : Cut) : Prop where
  margin : IsBlanks c.margin
  id : c.id.Holds IsWord
  name : c.name.Holds IsWord
  flags : c.flags.Holds IsWord
  value : c.value.Holds IsWord
  worst : c.worst.Holds IsWord
  threshold : c.threshold.Holds IsWord
  whenFailed : IsWord c.whenFailed
  last : c.last.Fits

/-- The line is cut into the columns of a row, whose numbers have ASCII digits and 32 bits. -/
def IsRowOf (line : String) (c : Cut) : Prop := c.Fits (Numeral.IsBelow UInt32.size) ∧ c.text = line.toList

/-- The attribute has what stands in the columns, and what follows from it. -/
structure Yields (c : Cut) (a : Attribute) : Prop where
  id : a.id = Numeral.value c.id.word
  name : a.name.toList = c.name.word
  flags : a.flags.toList = c.flags.word
  value : a.value = Numeral.value c.value.word
  worst : a.worst = Numeral.value c.worst.word
  threshold : a.threshold = if c.threshold.word = noThreshold then 0 else Numeral.value c.threshold.word
  whenFailed : a.whenFailed.toList = c.whenFailed
  rawValue : a.rawValue.toList = c.last.text
  isPrefailure : a.isPrefailure = true ↔ 'P' ∈ c.flags.word ∨ 'p' ∈ c.flags.word
  description : a.description = describe a.id
  verdict : a.verdict = a.assess

/-- The columns as the reader keeps them. -/
def columns (c : Cut) : Columns where
  id := c.id.word
  name := c.name.word
  flags := c.flags.word
  value := c.value.word
  worst := c.worst.word
  threshold := c.threshold.word
  whenFailed := c.whenFailed
  rawValue := c.last.text

variable {number : List Char → Prop} {c d : Cut}

theorem front_append (c : Cut) (s : List Char) : c.front ++ s = c.margin ++ (c.id.text ++ (c.name.text ++
    (c.flags.text ++ (c.value.text ++ (c.worst.text ++ (c.threshold.text ++ (c.whenFailed ++ s))))))) := by
  simp only [front, List.append_assoc]

theorem text_eq (c : Cut) : c.text = c.margin ++ (c.id.text ++ (c.name.text ++ (c.flags.text ++ (c.value.text ++
    (c.worst.text ++ (c.threshold.text ++ (c.whenFailed ++ c.last.whole))))))) :=
  front_append c c.last.whole

theorem Fits.mono {P Q : List Char → Prop} (hc : c.Fits P) (hPQ : ∀ w, P w → Q w) : c.Fits Q where
  margin := hc.margin
  id := hc.id.mono hPQ
  name := hc.name
  flags := hc.flags
  value := hc.value.mono hPQ
  worst := hc.worst.mono hPQ
  threshold := hc.threshold.mono fun w hw => hw.imp (hPQ w) fun h => h
  whenFailed := hc.whenFailed
  last := hc.last

theorem isWord_of_threshold {w : List Char} (h : IsDecimals w ∨ w = noThreshold) : IsWord w := by
  rcases h with h | rfl
  · exact h.isWord
  · have hdash : (noThreshold.all fun c => !isBlank c) = true := by decide +kernel
    exact ⟨by decide, fun c hc => by simpa using List.all_eq_true.mp hdash c hc⟩

theorem Fits.isSpaced (hc : c.Fits IsDecimals) : c.IsSpaced where
  margin := hc.margin
  id := hc.id.mono fun _ hw => hw.isWord
  name := hc.name
  flags := hc.flags.mono fun _ hw => hw.isWord
  value := hc.value.mono fun _ hw => hw.isWord
  worst := hc.worst.mono fun _ hw => hw.isWord
  threshold := hc.threshold.mono fun _ hw => isWord_of_threshold hw
  whenFailed := hc.whenFailed
  last := hc.last

/-- A line has one front of cells, whatever stands after it. -/
theorem front_cancel (hc : c.IsSpaced) (hd : d.IsSpaced) {s t : List Char} (hs : Stops (fun x => !isBlank x) s)
    (ht : Stops (fun x => !isBlank x) t) (h : c.front ++ s = d.front ++ t) :
    d = { c with last := d.last } ∧ s = t := by
  rw [front_append, front_append] at h
  obtain ⟨hmargin, h⟩ := run_cancel hc.margin (hc.id.stops _) hd.margin (hd.id.stops _) h
  obtain ⟨hid, h⟩ := Cell.cancel hc.id (hc.name.stops _) hd.id (hd.name.stops _) h
  obtain ⟨hname, h⟩ := Cell.cancel hc.name (hc.flags.stops _) hd.name (hd.flags.stops _) h
  obtain ⟨hflags, h⟩ := Cell.cancel hc.flags (hc.value.stops _) hd.flags (hd.value.stops _) h
  obtain ⟨hvalue, h⟩ := Cell.cancel hc.value (hc.worst.stops _) hd.value (hd.worst.stops _) h
  obtain ⟨hworst, h⟩ := Cell.cancel hc.worst (hc.threshold.stops _) hd.worst (hd.threshold.stops _) h
  obtain ⟨hthreshold, h⟩ := Cell.cancel hc.threshold (hc.whenFailed.stops _) hd.threshold
    (hd.whenFailed.stops _) h
  obtain ⟨hwhenFailed, hlast⟩ := run_cancel hc.whenFailed.all_not_isBlank hs hd.whenFailed.all_not_isBlank ht h
  refine ⟨?_, hlast⟩
  obtain ⟨margin, id, name, flags, value, worst, threshold, whenFailed, last⟩ := d
  rw [Cut.mk.injEq]
  exact ⟨hmargin.symm, hid.symm, hname.symm, hflags.symm, hvalue.symm, hworst.symm, hthreshold.symm,
    hwhenFailed.symm, rfl⟩

/-- Two ways to cut a line into columns differ in the last cell only. -/
theorem eq_of_text_eq (hc : c.IsSpaced) (hd : d.IsSpaced) (h : c.text = d.text) :
    d = { c with last := d.last } ∧ d.last.whole = c.last.whole := by
  obtain ⟨hcells, hlast⟩ := front_cancel hc hd hc.last.stops_whole hd.last.stops_whole h
  exact ⟨hcells, hlast.symm⟩

end Cut

/-! ### Reading the columns -/

variable {c : Cut} {line : List Char} {columns : Columns} {a : Attribute}

theorem isNumber_iff {token : List Char} (h : IsWord token) : isNumber token = true ↔ IsDecimals token := by
  rw [isNumber, List.all_eq_true, IsDecimals, and_iff_right h.1]

theorem isThreshold_iff {token : List Char} (h : IsWord token) :
    isThreshold token = true ↔ IsDecimals token ∨ token = noThreshold := by
  rw [isThreshold, Bool.or_eq_true, isNumber_iff h, decide_eq_true_eq]

/-- The reader finds all cells of a line that can be cut, up to the last one. -/
theorem read?_text (hc : c.Fits IsDecimals) : Columns.read? c.text =
    (lastColumn? c.last.whole).map fun raw => { c.columns with rawValue := raw } := by
  have h := hc.isSpaced
  rw [Cut.text_eq, Columns.read?, trimStart_run h.margin (h.id.stops _)]
  rw [column?_text h.id (h.name.stops _) ((isNumber_iff h.id.1).mpr hc.id.1)]
  simp only [Option.bind_eq_bind, Option.bind_some]
  rw [column?_text h.name (h.flags.stops _) rfl]
  simp only [Option.bind_some]
  rw [column?_text h.flags (h.value.stops _) (isFlagWord_iff.mp hc.flags.1)]
  simp only [Option.bind_some]
  rw [column?_text h.value (h.worst.stops _) ((isNumber_iff h.value.1).mpr hc.value.1)]
  simp only [Option.bind_some]
  rw [column?_text h.worst (h.threshold.stops _) ((isNumber_iff h.worst.1).mpr hc.worst.1)]
  simp only [Option.bind_some]
  rw [column?_text h.threshold (h.whenFailed.stops _) ((isThreshold_iff h.threshold.1).mpr hc.threshold.1)]
  simp only [Option.bind_some]
  rw [token?_append hc.whenFailed hc.last.stops_whole]
  cases hraw : lastColumn? c.last.whole with
  | none => simp only [Option.bind_some, hraw, Option.bind_none, Option.map_none]
  | some raw => simp only [Option.bind_some, hraw, Option.map_some, Cut.columns]

/-- The columns that are read come from a way to cut the line, of which the last cell is the best. -/
theorem exists_cut (h : Columns.read? line = some columns) :
    ∃ c : Cut, c.Fits IsDecimals ∧ c.text = line ∧ c.columns = columns ∧ c.last.IsBest := by
  simp only [Columns.read?, Option.bind_eq_bind, Option.bind_eq_some_iff, Prod.exists] at h
  obtain ⟨_, s₁, hid, _, s₂, hname, _, s₃, hflags, _, s₄, hvalue, _, s₅, hworst, _, s₆, hthreshold, failed, s₇,
    hfailed, raw, hraw, hcolumns⟩ := h
  cases hcolumns
  obtain ⟨margin, hmargin, hline⟩ := exists_blanks_trimStart line
  obtain ⟨hidNumber, -, id, rfl, hidWord, hs₀⟩ := column?_eq_some hid
  obtain ⟨-, -, name, rfl, hnameWord, hs₁⟩ := column?_eq_some hname
  obtain ⟨hflagsClass, -, flags, rfl, hflagsWord, hs₂⟩ := column?_eq_some hflags
  obtain ⟨hvalueNumber, -, value, rfl, hvalueWord, hs₃⟩ := column?_eq_some hvalue
  obtain ⟨hworstNumber, -, worst, rfl, hworstWord, hs₄⟩ := column?_eq_some hworst
  obtain ⟨hthresholdClass, -, threshold, rfl, hthresholdWord, hs₅⟩ := column?_eq_some hthreshold
  obtain ⟨hfailedWord, hs₆⟩ := token?_eq_some hfailed
  obtain ⟨last, hlastFits, hlastWhole, hlastText, hbest⟩ := exists_lastCell hraw
  refine ⟨⟨margin, id, name, flags, value, worst, threshold, failed, last⟩, ?_, ?_, ?_, hbest⟩
  · exact {
      margin := hmargin
      id := ⟨(isNumber_iff hidWord.1).mp hidNumber, hidWord.2⟩
      name := hnameWord
      flags := ⟨isFlagWord_iff.mpr hflagsClass, hflagsWord.2⟩
      value := ⟨(isNumber_iff hvalueWord.1).mp hvalueNumber, hvalueWord.2⟩
      worst := ⟨(isNumber_iff hworstWord.1).mp hworstNumber, hworstWord.2⟩
      threshold := ⟨(isThreshold_iff hthresholdWord.1).mp hthresholdClass, hthresholdWord.2⟩
      whenFailed := hfailedWord
      last := hlastFits }
  · rw [Cut.text_eq, hlastWhole, ← hs₆, ← hs₅, ← hs₄, ← hs₃, ← hs₂, ← hs₁, ← hs₀, ← hline]
  · rw [Cut.columns, hlastText]

/-- The reader refuses no line that can be cut into columns. -/
theorem exists_best_of_fits (hc : c.Fits IsDecimals) : ∃ d : Cut, d.Fits IsDecimals ∧ d.text = c.text ∧
    Columns.read? c.text = some d.columns ∧ d.last.IsBest := by
  obtain ⟨raw, hraw⟩ := Option.ne_none_iff_exists'.mp (lastColumn?_ne_none hc.last)
  have hread := read?_text hc
  rw [hraw, Option.map_some] at hread
  obtain ⟨d, hd, htext, hcolumns, hbest⟩ := exists_cut hread
  exact ⟨d, hd, htext, by rw [hread, hcolumns], hbest⟩

/-! ### Rows -/

/-- The numbers of a row are in range, and its attribute follows from its columns. -/
theorem yields_of_ofColumns? (hc : c.Fits IsDecimals) (h : ofColumns? c.columns = some a) :
    c.Fits (Numeral.IsBelow UInt32.size) ∧ c.Yields a := by
  have hread {digits : List Char} {n : Nat} (h : Numeral.read? Numeral.max32 digits = some n) :
      Numeral.IsBelow UInt32.size digits ∧ n = Numeral.value digits := Numeral.max32_succ ▸ Numeral.read?_eq_some.mp h
  have hprefailure : (c.flags.word.any fun f => f = 'P' || f = 'p') = true ↔
      'P' ∈ c.flags.word ∨ 'p' ∈ c.flags.word := by
    simp only [List.any_eq_true, Bool.or_eq_true, decide_eq_true_eq]
    constructor
    · rintro ⟨f, hf, rfl | rfl⟩
      · exact .inl hf
      · exact .inr hf
    · rintro (hf | hf)
      · exact ⟨_, hf, .inl rfl⟩
      · exact ⟨_, hf, .inr rfl⟩
  obtain ⟨id, hid, h⟩ := Option.bind_eq_some_iff.mp h
  obtain ⟨value, hvalue, h⟩ := Option.bind_eq_some_iff.mp h
  obtain ⟨worst, hworst, h⟩ := Option.bind_eq_some_iff.mp h
  dsimp only at h
  split at h
  all_goals
    rename_i hdash
    obtain ⟨threshold, hthreshold, h⟩ := Option.bind_eq_some_iff.mp h
    cases h
    refine ⟨{ hc with
      id := ⟨(hread hid).1, hc.id.2⟩
      value := ⟨(hread hvalue).1, hc.value.2⟩
      worst := ⟨(hread hworst).1, hc.worst.2⟩
      threshold := ⟨?_, hc.threshold.2⟩ }, {
      id := (hread hid).2
      name := String.toList_ofList
      flags := String.toList_ofList
      value := (hread hvalue).2
      worst := (hread hworst).2
      threshold := ?_
      whenFailed := String.toList_ofList
      rawValue := String.toList_ofList
      isPrefailure := hprefailure
      description := rfl
      verdict := rfl }⟩
  · exact .inr hdash
  · cases hthreshold
    exact (if_pos hdash).symm
  · exact .inl (hread hthreshold).1
  · exact (hread hthreshold).2.trans (if_neg hdash).symm

theorem exists_ofColumns? (hc : c.Fits (Numeral.IsBelow UInt32.size)) : ∃ a, ofColumns? c.columns = some a := by
  have hread {digits : List Char} (h : Numeral.IsBelow UInt32.size digits) :
      Numeral.read? Numeral.max32 digits = some (Numeral.value digits) :=
    Numeral.read?_eq_some.mpr ⟨Numeral.max32_succ ▸ h, rfl⟩
  have hid : Numeral.read? Numeral.max32 c.columns.id = _ := hread hc.id.1
  have hvalue : Numeral.read? Numeral.max32 c.columns.value = _ := hread hc.value.1
  have hworst : Numeral.read? Numeral.max32 c.columns.worst = _ := hread hc.worst.1
  simp only [ofColumns?, hid, hvalue, hworst, Option.bind_eq_bind, Option.bind_some]
  split
  · exact ⟨_, rfl⟩
  · rename_i hdash
    have hthreshold : Numeral.read? Numeral.max32 c.columns.threshold = _ :=
      hread (hc.threshold.1.resolve_right hdash)
    rw [hthreshold]
    exact ⟨_, rfl⟩

theorem Cut.Fits.decimals (hc : c.Fits (Numeral.IsBelow UInt32.size)) : c.Fits IsDecimals :=
  hc.mono fun _ hw => hw.isDecimals

/-- The attribute on a line follows from the best way to cut it into a row. -/
theorem exists_row {line : String} (h : ofLine? line = some a) :
    ∃ c : Cut, c.IsRowOf line ∧ (∀ d : Cut, d.IsRowOf line → d = c ∨ c.last.Beats d.last) ∧ c.Yields a := by
  obtain ⟨columns, hread, ha⟩ := Option.bind_eq_some_iff.mp h
  obtain ⟨c, hc, htext, rfl, hbest⟩ := exists_cut hread
  obtain ⟨hrow, hyields⟩ := yields_of_ofColumns? hc ha
  refine ⟨c, ⟨hrow, htext⟩, fun d hd => ?_, hyields⟩
  obtain ⟨hcells, hlast⟩ := Cut.eq_of_text_eq hc.isSpaced hd.1.decimals.isSpaced (htext.trans hd.2.symm)
  rcases hbest d.last hd.1.last hlast with heq | hbeats
  · left
    rw [hcells, heq]
  · exact .inr hbeats

/-- A line that can be cut into a row holds an attribute. -/
theorem exists_of_isRowOf {line : String} (hc : c.IsRowOf line) : ∃ a, ofLine? line = some a := by
  obtain ⟨hrow, htext⟩ := hc
  obtain ⟨d, hd, hdtext, hread, -⟩ := exists_best_of_fits hrow.decimals
  obtain ⟨hcells, -⟩ := Cut.eq_of_text_eq hrow.decimals.isSpaced hd.isSpaced hdtext.symm
  have hdrow : d.Fits (Numeral.IsBelow UInt32.size) := by
    rw [hcells]
    exact { hrow with last := hd.last }
  obtain ⟨a, ha⟩ := exists_ofColumns? hdrow
  refine ⟨a, ?_⟩
  rw [ofLine?, ← htext, hread]
  exact ha

/-- The line can be cut into a row. -/
def IsRow (line : String) : Prop := ∃ c : Cut, c.IsRowOf line

theorem isRow_iff {line : String} : IsRow line ↔ ∃ a, ofLine? line = some a := by
  constructor
  · rintro ⟨c, hc⟩
    exact exists_of_isRowOf hc
  · rintro ⟨a, ha⟩
    obtain ⟨c, hc, -⟩ := exists_row ha
    exact ⟨c, hc⟩

instance (line : String) : Decidable (IsRow line) :=
  decidable_of_iff (ofLine? line).isSome (Option.isSome_iff_exists.trans isRow_iff.symm)

/-- **The rows of a table are the lines that can be cut into one.** The attribute of a row is what stands in
its columns, where the last column is cut out in the best way; its verdict is the one on these columns and
never that of too many sectors. A table has the attributes of all rows in their order, and no others. -/
theorem table_reads_its_rows :
    (∀ line a, ofLine? line = some a →
      (∃ c : Cut, c.IsRowOf line ∧ (∀ d : Cut, d.IsRowOf line → d = c ∨ c.last.Beats d.last) ∧ c.Yields a) ∧
        a.verdict ≠ .badSectorMany) ∧
    (∀ line, (∃ a, ofLine? line = some a) ↔ IsRow line) ∧
    (∀ lines, List.Forall₂ (fun line a => ofLine? line = some a) (lines.filter IsRow) (table lines)) := by
  refine ⟨fun line a h => ?_, fun line => isRow_iff.symm, fun lines => ?_⟩
  · obtain ⟨c, hc, hbest, hyields⟩ := exists_row h
    refine ⟨⟨c, hc, hbest, hyields⟩, ?_⟩
    rw [hyields.verdict]
    exact assess_ne_many
  · exact forall₂_filterMap fun line => isRow_iff

/-- The last column begins after all blanks, and the blanks at the end do not belong to it. -/
example : (ofLine? "194 Temperature PO- 64 50 --- -   36 (Min/Max 20/45) ").map (fun a => a.rawValue) =
    some "36 (Min/Max 20/45)" := by
  decide +kernel

end Attribute

end DriveHealth
