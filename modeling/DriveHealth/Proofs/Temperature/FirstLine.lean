/-
# The first line that states a temperature

However the labels and the units overlap, a temperature line can be cut in one way only (`Parts.Fits.unique`): no label
begins with another one, and a `C` that is the start of `Celsius` is not at the end of a word. So a temperature line
whose number is not of ASCII digits or does not fit 32 bits states nothing under any cut, and it is passed over like a
line of any other shape. What is found is the number of the first line that states one, and nothing if no line does.

Key definitions: `Temperature.IsWordBoundary`.
Key theorems: `Temperature.Parts.Fits.unique`, `Temperature.atWordEnd_iff`, `Temperature.not_states_iff`,
`Temperature.ofLines_of_interspersed`, `Temperature.first_readable_line`.
-/
import DriveHealth.Proofs.Sequence
import DriveHealth.Proofs.Temperature.Lines

namespace DriveHealth.Temperature

open Text

variable {p q : Parts} {s rest rest' : List Char} {unit unit' line : String} {lines lines' : List String} {t : Int32}

/-! ### Where the unit ends -/

/-- Of the two characters that meet, just one is a word character; there is none at the end of a text. -/
def IsWordBoundary (before after : List Char) : Prop :=
  before.getLast?.any isWordChar ≠ after.head?.any isWordChar

/-- Behind a unit, which ends in a letter, a word boundary is where no word character follows. -/
theorem atWordEnd_iff (hunit : unit = "C" ∨ unit = "Celsius") :
    atWordEnd rest = true ↔ IsWordBoundary unit.toList rest := by
  have hletter : unit.toList.getLast?.any isWordChar = true := by
    rcases hunit with rfl | rfl <;> decide +kernel
  unfold IsWordBoundary
  rw [hletter]
  cases rest with
  | nil => simp [atWordEnd]
  | cons c rest => simp [atWordEnd]

/-- One of the units begins with the other, but no word ends within it. -/
theorem unit_cancel (hunit : unit = "C" ∨ unit = "Celsius") (hunit' : unit' = "C" ∨ unit' = "Celsius")
    (hrest : atWordEnd rest = true) (hrest' : atWordEnd rest' = true)
    (heq : unit.toList ++ rest = unit'.toList ++ rest') : unit = unit' ∧ rest = rest' := by
  have hlonger {s t : List Char} (hs : atWordEnd s = true) (hst : "C".toList ++ s = "Celsius".toList ++ t) : False := by
    obtain rfl : s = "elsius".toList ++ t := (List.cons.inj hst).2
    cases hs
  rcases hunit with rfl | rfl <;> rcases hunit' with rfl | rfl
  · exact ⟨rfl, List.append_cancel_left heq⟩
  · exact (hlonger hrest heq).elim
  · exact (hlonger hrest' heq.symm).elim
  · exact ⟨rfl, List.append_cancel_left heq⟩

/-- A temperature line is cut in one way only. -/
theorem Parts.Fits.unique (hp : p.Fits) (hq : q.Fits) (heq : p.text = q.text) : p = q := by
  have hnumeral := numeral?_text hp
  rw [heq, numeral?_text hq, Option.some.injEq, Prod.mk.injEq] at hnumeral
  obtain ⟨hnegative, hdigits⟩ := hnumeral
  unfold Parts.text at heq
  obtain ⟨hmargin, heq⟩ := run_cancel hp.margin (stops_label hp _) hq.margin (stops_label hq _) heq
  obtain ⟨hlabel, heq⟩ :=
    labels_incomparable.cancel (mem_lineLabels.mpr hp.label) (mem_lineLabels.mpr hq.label) heq
  obtain ⟨hgap, heq⟩ := run_cancel hp.gap (stops_signed hp _) hq.gap (stops_signed hq _) heq
  rw [Parts.sign, Parts.sign, hnegative, hdigits] at heq
  have hbehind := List.append_cancel_left (List.append_cancel_left heq)
  obtain ⟨hunitGap, heq⟩ := run_cancel hp.unitGap.2 (stops_unit hp _) hq.unitGap.2 (stops_unit hq _) hbehind
  obtain ⟨hunit, hrest⟩ := unit_cancel hp.unit hq.unit hp.rest hq.rest heq
  cases p
  cases q
  cases hmargin
  cases hlabel
  cases hgap
  cases hnegative
  cases hdigits
  cases hunitGap
  cases hunit
  cases hrest
  rfl

/-! ### Lines that are passed over -/

/-- A temperature line states nothing just when its number is not of ASCII digits or does not fit 32 bits. -/
theorem not_states_iff (hp : p.Fits) (htext : p.text = line.toList) : (∀ t, ¬ States line t) ↔
    (∃ c ∈ p.digits, c.isDigit = false) ∨ p.number < -0x80000000 ∨ 0x7FFFFFFF < p.number := by
  constructor
  · intro hnone
    by_contra hreadable
    simp only [not_or, not_exists, not_and, Bool.not_eq_false, Int.not_lt] at hreadable
    obtain ⟨hascii, hlow, hhigh⟩ := hreadable
    have hfits : (Int32.ofInt p.number).toInt = p.number := Int32.toInt_ofInt_of_le (by omega) (by omega)
    exact hnone _ ⟨p, hp, htext, hascii, hfits.symm⟩
  · rintro hunreadable t ⟨q, hq, hqtext, hascii, hnumber⟩
    obtain rfl := hp.unique hq (htext.trans hqtext.symm)
    have hlow := t.le_toInt
    have hhigh := t.toInt_lt
    rcases hunreadable with ⟨c, hc, hother⟩ | hrange
    · rw [hascii c hc] at hother
      cases hother
    · omega

/-- Lines that state nothing can be put in or taken out. -/
theorem ofLines_of_interspersed (h : Interspersed (fun line => ∀ t, ¬ States line t) lines lines') :
    ofLines lines' = ofLines lines :=
  h.findSome?_eq fun _ hline => Option.eq_none_iff_forall_ne_some.mpr fun t ht => hline t (ofLine?_eq_some.mp ht)

theorem ofLines_eq_none : ofLines lines = none ↔ ∀ line ∈ lines, ∀ t, ¬ States line t := by
  rw [ofLines, List.findSome?_eq_none_iff]
  simp only [Option.eq_none_iff_forall_ne_some, ne_eq, ofLine?_eq_some]

/-- **The temperature of lines is that of the first line that states one.** Such a line is a temperature line, whose
unit ends at a word boundary, with a number of ASCII digits that fits 32 bits. It is cut in one way only, so a line of
that shape with another number states nothing. There is no temperature just when no line states one, and lines that
state none can be put in or taken out. -/
theorem first_readable_line (lines : List String) :
    (∀ t, ofLines lines = some t ↔ ∃ before line after, lines = before ++ line :: after ∧
      (∃ p : Parts, p.Fits ∧ p.text = line.toList ∧ (∀ c ∈ p.digits, c.isDigit = true) ∧ p.number = t.toInt) ∧
      ∀ l ∈ before, ∀ u, ¬ States l u) ∧
    (ofLines lines = none ↔ ∀ line ∈ lines, ∀ t, ¬ States line t) ∧
    (∀ lines', Interspersed (fun line => ∀ t, ¬ States line t) lines lines' → ofLines lines' = ofLines lines) ∧
    (∀ (line : String) (p : Parts), p.Fits → p.text = line.toList → ((∀ t, ¬ States line t) ↔
      (∃ c ∈ p.digits, c.isDigit = false) ∨ p.number < -0x80000000 ∨ 0x7FFFFFFF < p.number)) ∧
    (∀ p q : Parts, p.Fits → q.Fits → p.text = q.text → p = q) ∧
    (∀ unit rest, unit = "C" ∨ unit = "Celsius" → (atWordEnd rest = true ↔ IsWordBoundary unit.toList rest)) :=
  ⟨fun _ => ofLines_eq_some, ofLines_eq_none, fun _ => ofLines_of_interspersed, fun _ _ => not_states_iff,
    fun _ _ hp hq => hp.unique hq, fun _ _ => atWordEnd_iff⟩

/-- Two lines whose numbers cannot be read, and one whose unit goes on. -/
example : ofLines ["Temperature: 2147483648 C", "Temperature: 3\u0668 C", "Temperature: 38 Cel",
    "Current Temperature:-5 Celsius"] = some (-5) := by
  decide +kernel

end DriveHealth.Temperature
