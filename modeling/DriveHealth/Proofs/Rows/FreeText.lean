/-
# Free text in the columns

The raw value of an attribute and the status and the first error of a self-test are free text between blanks,
and blanks are free text too. A row is read by the best way to cut it, and a best cut gives no blank at an end
of a column away: the gap before it could be longer, or the column shorter. So a column is trimmed as soon as
anything but blanks stands in its place. Where it is missing, the row is not refused: as long as the blanks in
its place can do without one, that one is read as the column.

Key definitions: `Text.IsTrimmed`, `Text.IsPad`, `Attribute.LacksRawValue`.
Key theorems: `Text.LastCell.IsBest.trimmed_or_pad`, `SelfTest.Cut.IsBest.status_trimmed_or_pad`,
`Attribute.isPad_rawValue_iff`, `Attribute.isRow_of_lacksRawValue`, `free_text_trimmed_or_pad`.
-/
import DriveHealth.Proofs.Attribute.Grammar
import DriveHealth.Proofs.SelfTest.Grammar

namespace DriveHealth

namespace Text

/-- Text with no blank at either end. -/
structure IsTrimmed (s : List Char) : Prop where
  ne_nil : s ≠ []
  front : Stops isBlank s
  back : Stops isBlank s.reverse

/-- One blank that is no line feed. -/
def IsPad (s : List Char) : Prop := ∃ x, s = [x] ∧ isBlank x = true ∧ x ≠ '\n'

variable {s line rest pad : List Char}

/-- Free text can lose a blank at one of its ends unless it is trimmed or has nothing else. -/
theorem IsFreeText.cases (h : IsFreeText s) : IsTrimmed s ∨ IsPad s ∨
    (∃ x later, s = x :: later ∧ isBlank x = true ∧ IsFreeText later) ∨
    (∃ before x, s = before ++ [x] ∧ isBlank x = true ∧ IsFreeText before) := by
  obtain ⟨hne, hfeed⟩ := h
  obtain ⟨x, later, rfl⟩ := List.exists_cons_of_ne_nil hne
  by_cases hx : isBlank x = true
  · by_cases hlater : later = []
    · subst hlater
      exact .inr (.inl ⟨x, rfl, hx, fun h => hfeed (h ▸ List.mem_cons_self)⟩)
    · exact .inr (.inr (.inl ⟨x, later, rfl, hx, hlater, fun h => hfeed (List.mem_cons_of_mem _ h)⟩))
  obtain ⟨before, y, hback⟩ := (List.eq_nil_or_concat (x :: later)).resolve_left hne
  rw [List.concat_eq_append] at hback
  by_cases hy : isBlank y = true
  · refine .inr (.inr (.inr ⟨before, y, hback, hy, ?_, fun h => ?_⟩))
    · rintro rfl
      obtain ⟨rfl, -⟩ := List.cons.inj hback
      exact hx hy
    · exact hfeed (hback ▸ List.mem_append_left _ h)
  · refine .inl ⟨hne, stops_cons.mpr (by simpa using hx), ?_⟩
    rw [hback, List.reverse_append]
    exact stops_cons.mpr (by simpa using hy)

theorem not_isTrimmed_of_isBlanks (h : IsBlanks s) : ¬ IsTrimmed s := by
  rintro ⟨hne, hfront, -⟩
  obtain ⟨x, later, rfl⟩ := List.exists_cons_of_ne_nil hne
  have hx : isBlank x = true := h x List.mem_cons_self
  rw [stops_cons.mp hfront] at hx
  cases hx

/-- Blanks at the end of a line stand among the blanks after its last character that is none. -/
theorem exists_rest (hs : Stops isBlank s.reverse) (hpad : IsBlanks pad) (h : s ++ rest = line ++ pad) :
    ∃ rest', rest = rest' ++ pad ∧ line = s ++ rest' := by
  rcases List.append_eq_append_iff.mp h with ⟨more, hline, hrest⟩ | ⟨more, hs', hpadMore⟩
  · exact ⟨more, hrest, hline⟩
  · have hnil : more = [] := by
      rw [hpadMore] at hpad
      exact eq_nil_of_trimmed (s := line) (by rwa [← hs']) (isBlanks_append.mp hpad).1
    subst hnil
    exact ⟨[], hpadMore.symm, by rw [hs', List.append_nil, List.append_nil]⟩

namespace LastCell

variable {c d : LastCell}

/-- No other way to cut the text has a longer gap. -/
theorem IsBest.gap_length_le (hbest : c.IsBest) (hd : d.Fits) (hwhole : d.whole = c.whole) :
    d.gap.length ≤ c.gap.length := by
  rcases hbest d hd hwhole with rfl | hlt | ⟨heq, -⟩
  · exact Nat.le_refl _
  · exact Nat.le_of_lt hlt
  · exact Nat.le_of_eq heq

/-- None with a gap as long has a shorter column. -/
theorem IsBest.text_length_le (hbest : c.IsBest) (hd : d.Fits) (hwhole : d.whole = c.whole)
    (hgap : d.gap.length = c.gap.length) : c.text.length ≤ d.text.length := by
  rcases hbest d hd hwhole with rfl | hlt | ⟨-, hlt⟩
  · exact Nat.le_refl _
  · exact absurd hgap (Nat.ne_of_lt hlt)
  · exact Nat.le_of_lt hlt

/-- A best last cell takes in no blank that it could leave to the gap or to the blanks after it. -/
theorem IsBest.trimmed_or_pad (hc : c.Fits) (hbest : c.IsBest) : IsTrimmed c.text ∨ IsPad c.text := by
  obtain ⟨gap, text, rest⟩ := c
  rcases hc.text.cases with htrimmed | hpad | ⟨x, later, rfl, hx, hlater⟩ | ⟨before, x, rfl, hx, hbefore⟩
  · exact .inl htrimmed
  · exact .inr hpad
  · -- the gap could be longer by the first character
    have hfits : (⟨gap ++ [x], later, rest⟩ : LastCell).Fits := ⟨hc.gap.append_blank hx, hlater, hc.rest⟩
    have hlength := hbest.gap_length_le hfits (by simp [whole])
    rw [List.length_append] at hlength
    exact absurd hlength (Nat.not_succ_le_self _)
  · -- the column could be shorter by the last character
    have hfits : (⟨gap, before, x :: rest⟩ : LastCell).Fits := ⟨hc.gap, hbefore, isBlanks_cons.mpr ⟨hx, hc.rest⟩⟩
    have hlength := hbest.text_length_le hfits (by simp [whole]) rfl
    rw [List.length_append] at hlength
    exact absurd hlength (Nat.not_succ_le_self _)

/-- Where a blank is read as the last column, all around it is blank. -/
theorem isBlanks_whole (hc : c.Fits) (hpad : IsPad c.text) : IsBlanks c.whole := by
  obtain ⟨x, htext, hx, -⟩ := hpad
  rw [whole_eq, htext]
  exact isBlanks_append.mpr ⟨hc.gap.2, isBlanks_cons.mpr ⟨hx, hc.rest⟩⟩

end LastCell

end Text

open Text

/-! ### Rows of the attribute table -/

namespace Attribute

variable {d : Cut} {line : String} {a : Attribute} {pad : List Char}

/-- The raw value of a row is trimmed, or one blank that stands in its place. -/
theorem rawValue_trimmed_or_pad (h : ofLine? line = some a) :
    IsTrimmed a.rawValue.toList ∨ IsPad a.rawValue.toList := by
  obtain ⟨columns, hread, ha⟩ := Option.bind_eq_some_iff.mp h
  obtain ⟨c, hc, -, rfl, hbest⟩ := exists_cut hread
  rw [(yields_of_ofColumns? hc ha).2.rawValue]
  exact hbest.trimmed_or_pad hc.last

/-- The line ends before the raw value of a row, with nothing but blanks after it. -/
def LacksRawValue (line : String) (pad : List Char) : Prop :=
  IsBlanks pad ∧ ∃ c : Cut, c.Fits (Numeral.IsBelow UInt32.size) ∧ line.toList = c.front ++ pad

/-- The last cell of a line without a raw value takes all blanks after the front. -/
theorem last_of_lacksRawValue (hlacks : LacksRawValue line pad) (hd : d.IsRowOf line) : d.last.whole = pad := by
  obtain ⟨hpad, c, hc, hline⟩ := hlacks
  have hstops : Stops (fun x => !isBlank x) pad := stops_of_forall fun x hx => by rw [hpad x hx, Bool.not_true]
  exact (Cut.front_cancel hd.1.decimals.isSpaced hc.decimals.isSpaced hd.1.last.stops_whole hstops
    (hd.2.trans hline)).2

/-- Blanks in the place of the last column are read as one if a blank after the first is no line feed. -/
theorem isRow_of_lacksRawValue (hlacks : LacksRawValue line pad) :
    IsRow line ↔ ∃ x ∈ pad.tail, x ≠ '\n' := by
  constructor
  · rintro ⟨d, hd⟩
    have hlast := last_of_lacksRawValue hlacks hd
    obtain ⟨g, gap, hgap⟩ := List.exists_cons_of_ne_nil hd.1.last.gap.1
    obtain ⟨x, text, hx⟩ := List.exists_cons_of_ne_nil hd.1.last.text.1
    refine ⟨x, ?_, ?_⟩
    · rw [← hlast, LastCell.whole_eq, hgap, hx]
      simp
    · rintro rfl
      exact hd.1.last.text.2 (hx ▸ List.mem_cons_self)
  · rintro ⟨x, hx, hfeed⟩
    obtain ⟨hpad, c, hc, hline⟩ := hlacks
    obtain ⟨g, tail, rfl⟩ : ∃ g tail, pad = g :: tail := List.exists_cons_of_ne_nil (by rintro rfl; cases hx)
    obtain ⟨before, after, htail⟩ := List.mem_iff_append.mp hx
    rw [List.tail_cons] at htail
    subst htail
    obtain ⟨hg, htail⟩ := isBlanks_cons.mp hpad
    obtain ⟨hbefore, hlater⟩ := isBlanks_append.mp htail
    obtain ⟨-, hafter⟩ := isBlanks_cons.mp hlater
    have hlast : (⟨g :: before, [x], after⟩ : LastCell).Fits :=
      ⟨⟨List.cons_ne_nil _ _, isBlanks_cons.mpr ⟨hg, hbefore⟩⟩,
        ⟨List.cons_ne_nil _ _, fun hmem => hfeed (List.mem_singleton.mp hmem).symm⟩, hafter⟩
    refine ⟨{ c with last := ⟨g :: before, [x], after⟩ }, { hc with last := hlast }, ?_⟩
    rw [hline]
    show c.front ++ LastCell.whole _ = _
    simp [LastCell.whole]

/-- The raw value of a row is a blank just when there is none in the line. -/
theorem isPad_rawValue_iff (h : ofLine? line = some a) :
    IsPad a.rawValue.toList ↔ ∃ pad, LacksRawValue line pad := by
  obtain ⟨d, hd, -, hyields⟩ := exists_row h
  have hraw := rawValue_trimmed_or_pad h
  rw [hyields.rawValue] at hraw ⊢
  constructor
  · intro hpad
    refine ⟨d.last.whole, LastCell.isBlanks_whole hd.1.last hpad, d, hd.1, ?_⟩
    rw [← hd.2]
    rfl
  · rintro ⟨pad, hlacks⟩
    have hblanks : IsBlanks d.last.whole := last_of_lacksRawValue hlacks hd ▸ hlacks.1
    exact hraw.resolve_left (not_isTrimmed_of_isBlanks (isBlanks_append.mp (isBlanks_append.mp hblanks).1).2)

/-- Blanks at the end of a line that is no row make it one only by being read as the raw value. -/
theorem rawValue_of_appended (hpad : IsBlanks pad) (hline : ofLine? line = none)
    (h : ofLine? (line ++ String.ofList pad) = some a) : IsPad a.rawValue.toList := by
  refine (rawValue_trimmed_or_pad h).resolve_left fun htrimmed => ?_
  obtain ⟨c, ⟨hc, htext⟩, -, hyields⟩ := exists_row h
  rw [hyields.rawValue] at htrimmed
  rw [String.toList_append, String.toList_ofList] at htext
  have hback : Stops isBlank (c.front ++ (c.last.gap ++ c.last.text)).reverse := by
    rw [← List.append_assoc, List.reverse_append]
    exact htrimmed.back.append (by simpa using htrimmed.ne_nil) _
  have hsplit : c.front ++ (c.last.gap ++ c.last.text) ++ c.last.rest = line.toList ++ pad :=
    (List.append_assoc _ _ _).trans htext
  obtain ⟨rest, hrest, hfront⟩ := exists_rest hback hpad hsplit
  have hlast : (⟨c.last.gap, c.last.text, rest⟩ : LastCell).Fits :=
    ⟨hc.last.gap, hc.last.text, (isBlanks_append.mp (hrest ▸ hc.last.rest)).1⟩
  have hrow : IsRow line := by
    refine ⟨{ c with last := ⟨c.last.gap, c.last.text, rest⟩ }, { hc with last := hlast }, ?_⟩
    rw [hfront, List.append_assoc]
    rfl
  obtain ⟨b, hb⟩ := isRow_iff.mp hrow
  rw [hline] at hb
  cases hb

end Attribute

/-! ### Rows of the self-test log -/

namespace SelfTest

namespace Cut

variable {c d : Cut} {rest pad : List Char}

/-- The best way to cut a line has the best last cell. -/
theorem IsBest.last (hc : c.Fits) (hbest : c.IsBest) : c.ending.last.IsBest := by
  intro cell hcell hwhole
  have htext : ({ c with ending := { c.ending with last := cell } } : Cut).text = c.text := by
    simp only [text, EndingCut.text, hwhole]
  have hfits : ({ c with ending := { c.ending with last := cell } } : Cut).Fits :=
    { hc with ending := { hc.ending with last := hcell } }
  rcases hbest _ hfits htext with heq | hbeats
  · exact .inl (congrArg (fun d => d.ending.last) heq)
  · rcases hbeats with hlt | ⟨-, hlt | ⟨-, hlast⟩⟩
    · exact absurd hlt (Nat.lt_irrefl _)
    · exact absurd hlt (Nat.lt_irrefl _)
    · exact .inr hlast

/-- No other way to cut the line has a longer gap before the status. -/
theorem IsBest.kindGap_length_le (hbest : c.IsBest) (hd : d.Fits) (htext : d.text = c.text) :
    d.kindGap.length ≤ c.kindGap.length := by
  rcases hbest d hd htext with rfl | hlt | ⟨heq, -⟩
  · exact Nat.le_refl _
  · exact Nat.le_of_lt hlt
  · exact Nat.le_of_eq heq

/-- None with a gap as long there has a shorter status. -/
theorem IsBest.status_length_le (hbest : c.IsBest) (hd : d.Fits) (htext : d.text = c.text)
    (hgap : d.kindGap.length = c.kindGap.length) : c.status.length ≤ d.status.length := by
  rcases hbest d hd htext with rfl | hlt | ⟨-, hlt | ⟨heq, -⟩⟩
  · exact Nat.le_refl _
  · exact absurd hgap (Nat.ne_of_lt hlt)
  · exact Nat.le_of_lt hlt
  · exact Nat.le_of_eq heq

/-- The best way to cut a line takes no blank into the status that it could leave to the gaps around it. -/
theorem IsBest.status_trimmed_or_pad (hc : c.Fits) (hbest : c.IsBest) : IsTrimmed c.status ∨ IsPad c.status := by
  obtain ⟨signGap, number, kind, kindGap, status, ending⟩ := c
  rcases hc.status.cases with htrimmed | hpad | ⟨x, later, rfl, hx, hlater⟩ | ⟨before, x, rfl, hx, hbefore⟩
  · exact .inl htrimmed
  · exact .inr hpad
  · -- the gap before the status could be longer by the first character
    have hfits : (⟨signGap, number, kind, kindGap ++ [x], later, ending⟩ : Cut).Fits :=
      ⟨hc.signGap, hc.number, hc.kindGap.append_blank hx, hlater, hc.ending⟩
    have hlength := hbest.kindGap_length_le hfits (by simp [text])
    rw [List.length_append] at hlength
    exact absurd hlength (Nat.not_succ_le_self _)
  · -- the gap after the status could be longer by the last character
    have hgap : IsGap (x :: ending.gap) := ⟨List.cons_ne_nil _ _, isBlanks_cons.mpr ⟨hx, hc.ending.gap.2⟩⟩
    have hfits : (⟨signGap, number, kind, kindGap, before, { ending with gap := x :: ending.gap }⟩ : Cut).Fits :=
      ⟨hc.signGap, hc.number, hc.kindGap, hbefore, { hc.ending with gap := hgap }⟩
    have hlength := hbest.status_length_le hfits (by simp [text, EndingCut.text]) rfl
    rw [List.length_append] at hlength
    exact absurd hlength (Nat.not_succ_le_self _)

/-- The same columns with other blanks at the end of the line. -/
def withRest (c : Cut) (rest : List Char) : Cut :=
  { c with ending := { c.ending with last := { c.ending.last with rest } } }

/-- The line up to the end of the last column. -/
def body (c : Cut) : List Char :=
  '#' :: (c.signGap ++ (c.number.text ++ (c.kind.label.toList ++ (c.kindGap ++ (c.status ++ (c.ending.gap ++
    (c.ending.remaining ++ '%' :: (c.ending.hoursGap ++ (c.ending.hours ++ c.ending.last.gap))))))))) ++
    c.ending.last.text

theorem text_withRest (c : Cut) (rest : List Char) : (c.withRest rest).text = c.body ++ rest := by
  simp [text, body, withRest, EndingCut.text, LastCell.whole]

theorem text_eq_body (c : Cut) : c.text = c.body ++ c.ending.last.rest := text_withRest c c.ending.last.rest

theorem Fits.withRest (hc : c.Fits) (hrest : IsBlanks rest) : (c.withRest rest).Fits :=
  { hc with ending := { hc.ending with last := { hc.ending.last with rest := hrest } } }

/-- Without some blanks at its end, a line is cut best in the same columns. -/
theorem IsBest.withRest (hbest : c.IsBest) (hpad : IsBlanks pad) (hrest : c.ending.last.rest = rest ++ pad) :
    (c.withRest rest).IsBest := by
  intro d hd htext
  have hpadded : (d.withRest (d.ending.last.rest ++ pad)).text = c.text := by
    rw [text_withRest, ← List.append_assoc, ← text_eq_body, htext, text_withRest, List.append_assoc, ← hrest,
      ← text_eq_body]
  rcases hbest _ (hd.withRest (isBlanks_append.mpr ⟨hd.ending.last.rest, hpad⟩)) hpadded with heq | hbeats
  · left
    have hsame : d.ending.last.rest = rest := by
      have hlast : d.ending.last.rest ++ pad = c.ending.last.rest :=
        congrArg (fun e => e.ending.last.rest) heq
      exact List.append_cancel_right (hlast.trans hrest)
    rw [← heq, ← hsame]
    rfl
  · exact .inr hbeats

end Cut

variable {line : String} {t : SelfTest} {pad : List Char}

/-- What is read of a row stands in the columns of its best cut. -/
theorem exists_best_of_row (h : ofLine? line = some t) :
    ∃ c : Cut, c.IsCutOf line ∧ c.IsBest ∧ c.InRange ∧ t = c.selfTest := by
  obtain ⟨columns, hread, ht⟩ := Option.bind_eq_some_iff.mp h
  obtain ⟨c, hc, htext, rfl, hbest⟩ := exists_cut hread
  obtain ⟨hrange, hself⟩ := ofColumns?_eq_some.mp ht
  exact ⟨c, ⟨hc, htext⟩, hbest, hrange, hself⟩

/-- A blank is the status of a best cut just when it stands among blanks alone. -/
theorem Cut.IsBest.isPad_status_iff {c : Cut} (hc : c.Fits) (hbest : c.IsBest) :
    IsPad c.status ↔ IsBlanks (c.kindGap ++ (c.status ++ c.ending.gap)) := by
  constructor
  · rintro ⟨x, hstatus, hx, -⟩
    rw [hstatus]
    exact isBlanks_append.mpr ⟨hc.kindGap.2, isBlanks_cons.mpr ⟨hx, hc.ending.gap.2⟩⟩
  · intro hblanks
    have hstatus := (isBlanks_append.mp (isBlanks_append.mp hblanks).2).1
    exact (hbest.status_trimmed_or_pad hc).resolve_left (not_isTrimmed_of_isBlanks hstatus)

theorem Cut.IsBest.isPad_firstError_iff {c : Cut} (hc : c.Fits) (hbest : c.IsBest) :
    IsPad c.ending.last.text ↔ IsBlanks c.ending.last.whole := by
  constructor
  · exact LastCell.isBlanks_whole hc.ending.last
  · intro hblanks
    have htext := (isBlanks_append.mp (isBlanks_append.mp hblanks).1).2
    exact ((hbest.last hc).trimmed_or_pad hc.ending.last).resolve_left (not_isTrimmed_of_isBlanks htext)

/-- Blanks at the end of a line that is no row make it one only by being read as the first error. -/
theorem firstError_of_appended (hpad : IsBlanks pad) (hline : ofLine? line = none)
    (h : ofLine? (line ++ String.ofList pad) = some t) : IsPad t.firstError.toList := by
  obtain ⟨c, ⟨hc, htext⟩, hbest, hrange, rfl⟩ := exists_best_of_row h
  rw [Cut.selfTest, String.toList_ofList]
  refine ((hbest.last hc).trimmed_or_pad hc.ending.last).resolve_left fun htrimmed => ?_
  rw [String.toList_append, String.toList_ofList, Cut.text_eq_body] at htext
  have hback : Stops isBlank c.body.reverse := by
    rw [Cut.body, List.reverse_append]
    exact htrimmed.back.append (by simpa using htrimmed.ne_nil) _
  obtain ⟨rest, hrest, hbody⟩ := exists_rest hback hpad htext
  have hblank : IsBlanks rest := (isBlanks_append.mp (hrest ▸ hc.ending.last.rest)).1
  have hrow : IsRow line :=
    ⟨c.withRest rest, ⟨hc.withRest hblank, (Cut.text_withRest c rest).trans hbody.symm⟩,
      hbest.withRest hpad hrest, hrange⟩
  obtain ⟨u, hu⟩ := isRow_iff.mp hrow
  rw [hline] at hu
  cases hu

end SelfTest

/-- **Free text is trimmed, or it is one blank in the place of a missing column.** The raw value of a row of
the table begins and ends with no blank, unless the line ends before it; then it is one blank, and the line
counts as a row just when a blank after the first one is no line feed. The status and the first error of a
row of the log begin and end with no blank either, or each is one blank among blanks alone. Blanks at the end
of a line that is no row make it one only in this way: the last column that is read is one of them. -/
theorem free_text_trimmed_or_pad (line : String) :
    (∀ a, Attribute.ofLine? line = some a →
      (IsTrimmed a.rawValue.toList ∨ IsPad a.rawValue.toList) ∧
        (IsPad a.rawValue.toList ↔ ∃ pad, Attribute.LacksRawValue line pad)) ∧
    (∀ pad, Attribute.LacksRawValue line pad →
      ((∃ a, Attribute.ofLine? line = some a) ↔ ∃ x ∈ pad.tail, x ≠ '\n')) ∧
    (∀ t, SelfTest.ofLine? line = some t → ∃ c : SelfTest.Cut, c.IsCutOf line ∧ c.IsBest ∧ t = c.selfTest ∧
      (IsTrimmed c.status ∨ IsPad c.status) ∧
      (IsPad c.status ↔ IsBlanks (c.kindGap ++ (c.status ++ c.ending.gap))) ∧
      (IsTrimmed c.ending.last.text ∨ IsPad c.ending.last.text) ∧
      (IsPad c.ending.last.text ↔ IsBlanks c.ending.last.whole)) ∧
    (∀ pad, IsBlanks pad →
      (∀ a, Attribute.ofLine? line = none → Attribute.ofLine? (line ++ String.ofList pad) = some a →
        IsPad a.rawValue.toList) ∧
      ∀ t, SelfTest.ofLine? line = none → SelfTest.ofLine? (line ++ String.ofList pad) = some t →
        IsPad t.firstError.toList) := by
  refine ⟨fun a h => ⟨Attribute.rawValue_trimmed_or_pad h, Attribute.isPad_rawValue_iff h⟩, fun pad hlacks => ?_,
    fun t h => ?_, fun pad hpad => ⟨fun a hline h => Attribute.rawValue_of_appended hpad hline h,
      fun t hline h => SelfTest.firstError_of_appended hpad hline h⟩⟩
  · rw [← Attribute.isRow_iff]
    exact Attribute.isRow_of_lacksRawValue hlacks
  · obtain ⟨c, hc, hbest, -, hself⟩ := SelfTest.exists_best_of_row h
    exact ⟨c, hc, hbest, hself, hbest.status_trimmed_or_pad hc.1, hbest.isPad_status_iff hc.1,
      (hbest.last hc.1).trimmed_or_pad hc.1.ending.last, hbest.isPad_firstError_iff hc.1⟩

/-- A row without a raw value is no row until blanks are added to it, and a self-test without a status is one. -/
theorem missing_columns_read_as_blanks :
    Attribute.ofLine? "  5 Reallocated_Sector_Ct   PO--CK   100   100   010    -" = none ∧
    (Attribute.ofLine? "  5 Reallocated_Sector_Ct   PO--CK   100   100   010    -   ").map Attribute.rawValue =
      some " " ∧
    (SelfTest.ofLine? "# 1  Short offline       00%       650         -").map SelfTest.status = some " " := by
  decide +kernel

end DriveHealth
