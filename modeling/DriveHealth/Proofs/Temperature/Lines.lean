/-
# The grammar of a temperature line

A temperature line has a label, a number with at most a minus before it, a gap and a unit that is a whole word.
It can be cut into these parts in one way only: no label begins with another one, the digits end at the gap, and
of the two units only one can end a word. A line of this shape states a temperature if its digits are those of
ASCII and the number fits 32 bits with its sign; otherwise it is passed over like a line of any other shape.

Key definitions: `Temperature.Parts`, `Temperature.Parts.Fits`, `Temperature.States`, `Temperature.FirstStates`.
Key theorems: `Temperature.numeral?_text`, `Temperature.exists_parts`, `Temperature.ofLine?_eq_some`,
`Temperature.ofLines_eq_some`.
-/
import DriveHealth.Proofs.Text.Labels
import DriveHealth.Temperature

namespace DriveHealth.Temperature

open Text

/-- A line cut into the parts of a temperature line. -/
structure Parts where
  margin : List Char
  label : String
  gap : List Char
  isNegative : Bool
  digits : List Char
  unitGap : List Char
  unit : String
  rest : List Char

namespace Parts

def sign (p : Parts) : List Char := if p.isNegative then ['-'] else []

/-- The line that is cut. -/
def text (p : Parts) : List Char :=
  p.margin ++ (p.label.toList ++ (p.gap ++ (p.sign ++ (p.digits ++ (p.unitGap ++ (p.unit.toList ++ p.rest))))))

/-- Every part is what it is called, the digits of any script. -/
structure Fits (p : Parts) : Prop where
  margin : IsBlanks p.margin
  label : p.label = "Current Drive Temperature:" ∨ p.label = "Current Temperature:" ∨ p.label = "Temperature:"
  gap : IsBlanks p.gap
  digits : IsDecimals p.digits
  unitGap : IsGap p.unitGap
  unit : p.unit = "C" ∨ p.unit = "Celsius"
  rest : atWordEnd p.rest = true

/-- The number with its sign. -/
def number (p : Parts) : Int := if p.isNegative then -(Numeral.value p.digits : Int) else Numeral.value p.digits

end Parts

/-- The line is a temperature line whose number has ASCII digits and is `t`. -/
def States (line : String) (t : Int32) : Prop :=
  ∃ p : Parts, p.Fits ∧ p.text = line.toList ∧ (∀ c ∈ p.digits, c.isDigit = true) ∧ p.number = t.toInt

/-- The first of the lines that state a temperature states `t`. -/
def FirstStates (lines : List String) (t : Int32) : Prop :=
  ∃ before line after, lines = before ++ line :: after ∧ States line t ∧ ∀ l ∈ before, ∀ u, ¬ States l u

variable {p : Parts} {s rest digits : List Char} {label line : String} {lines : List String} {negative : Bool}
  {t u : Int32}

/-! ### The parts -/

theorem labels_incomparable : Incomparable String.toList lineLabels := by
  unfold Incomparable
  decide +kernel

theorem mem_lineLabels : label ∈ lineLabels ↔
    label = "Current Drive Temperature:" ∨ label = "Current Temperature:" ∨ label = "Temperature:" := by
  rw [lineLabels, List.mem_cons, List.mem_cons, List.mem_singleton]

/-- A label starts with a letter, neither blank nor digit. -/
theorem label_starts_with_letter : ∀ l ∈ lineLabels,
    (l.toList.head?.any fun c => !isBlank c) = true ∧ (l.toList.head?.any fun c => !isDecimal c) = true := by
  decide +kernel

theorem stops_label (h : p.Fits) (s : List Char) : Stops isBlank (p.label.toList ++ s) :=
  stops_append_of_head (label_starts_with_letter p.label (mem_lineLabels.mpr h.label)).1 s

theorem stops_unit (h : p.Fits) (s : List Char) : Stops isBlank (p.unit.toList ++ s) := by
  rcases h.unit with hunit | hunit <;> rw [hunit] <;> exact stops_append_of_head (by decide) s

theorem stops_signed (h : p.Fits) (s : List Char) : Stops isBlank (p.sign ++ (p.digits ++ s)) := by
  unfold Parts.sign
  split
  · exact stops_cons.mpr (by decide)
  · exact h.digits.isWord.stops s

theorem startsWithUnit_iff : startsWithUnit s = true ↔
    ∃ unit rest, (unit = "C" ∨ unit = "Celsius") ∧ atWordEnd rest = true ∧ unit.toList ++ rest = s := by
  simp only [startsWithUnit, List.any_eq_true, Option.any_eq_true, List.isPrefixOf?_eq_some_iff_append_eq,
    List.mem_cons, List.not_mem_nil, or_false]
  constructor
  · rintro ⟨unit, hunit, rest, hrest, hend⟩
    exact ⟨unit, rest, hunit, hend, hrest⟩
  · rintro ⟨unit, rest, hunit, hend, hrest⟩
    exact ⟨unit, hunit, rest, hrest, hend⟩

/-- A minus stands first only if the number has one. -/
theorem signed_eq_minus (hdigits : IsDecimals p.digits) :
    p.sign ++ (p.digits ++ s) = '-' :: rest ↔ p.isNegative = true ∧ p.digits ++ s = rest := by
  unfold Parts.sign
  split
  · rename_i hnegative
    rw [List.cons_append, List.nil_append, List.cons.injEq, eq_self, true_and, hnegative, eq_self, true_and]
  · rename_i hnegative
    refine iff_of_false (fun heq => ?_) fun h => hnegative h.1
    obtain ⟨d, digits, hd⟩ := List.exists_cons_of_ne_nil hdigits.1
    rw [hd, List.nil_append, List.cons_append, List.cons.injEq] at heq
    have hminus := hdigits.2 d (hd ▸ List.mem_cons_self)
    rw [heq.1] at hminus
    exact absurd hminus (by decide +kernel)

/-- The number of a temperature line is found. -/
theorem numeral?_text (h : p.Fits) : numeral? p.text = some (p.isNegative, p.digits) := by
  have hlabel : (lineLabels.findSome? fun l => l.toList.isPrefixOf? (trimStart p.text)) =
      some (p.gap ++ (p.sign ++ (p.digits ++ (p.unitGap ++ (p.unit.toList ++ p.rest))))) := by
    rw [Parts.text, trimStart_run h.margin (stops_label h _)]
    exact labels_incomparable.findSome?_rest.mpr ⟨p.label, mem_lineLabels.mpr h.label, rfl⟩
  have hdigits : Numeral.digitRun? (p.digits ++ (p.unitGap ++ (p.unit.toList ++ p.rest))) =
      some (p.digits, p.unitGap ++ (p.unit.toList ++ p.rest)) :=
    digitRun?_append h.digits (h.unitGap.stops isBlank_not_decimal _)
  have hunit : startsWithUnit (p.unit.toList ++ p.rest) = true :=
    startsWithUnit_iff.mpr ⟨p.unit, p.rest, h.unit, h.rest, rfl⟩
  unfold numeral?
  rw [hlabel]
  simp only [Option.bind_eq_bind, Option.bind_some, trimStart_run h.gap (stops_signed h _)]
  split
  · rename_i heq
    obtain ⟨hnegative, rfl⟩ := (signed_eq_minus h.digits).mp heq
    simp only [hdigits, Option.bind_some, afterGap?_append h.unitGap (stops_unit h _), hunit, hnegative, ↓reduceIte]
  · rename_i hnot
    have hnegative : p.isNegative = false := by
      by_contra hsign
      exact hnot _ ((signed_eq_minus h.digits).mpr ⟨Bool.not_eq_false _ ▸ hsign, rfl⟩)
    have hsign : p.sign = [] := by rw [Parts.sign, hnegative, if_neg Bool.false_ne_true]
    simp only [hsign, List.nil_append, hdigits, Option.bind_some, afterGap?_append h.unitGap (stops_unit h _), hunit,
      hnegative, ↓reduceIte]

/-- A number that is found is that of a temperature line. -/
theorem exists_parts (h : numeral? s = some (negative, digits)) :
    ∃ p : Parts, p.Fits ∧ p.text = s ∧ p.isNegative = negative ∧ p.digits = digits := by
  simp only [numeral?, Option.bind_eq_bind, Option.bind_eq_some_iff, Prod.exists] at h
  obtain ⟨afterLabel, hlabel, number, afterDigits, hrun, afterGap, hgap, hif⟩ := h
  obtain ⟨label, hmem, hlabelText⟩ := labels_incomparable.findSome?_rest.mp hlabel
  obtain ⟨margin, hmargin, hline⟩ := exists_blanks_trimStart s
  obtain ⟨gap, hgapBlanks, hafterLabel⟩ := exists_blanks_trimStart afterLabel
  obtain ⟨-, unitGap, hunitGap, rfl⟩ := afterGap?_eq_some hgap
  split at hif
  · rename_i hunit
    obtain ⟨unit, rest, hunitName, hend, rfl⟩ := startsWithUnit_iff.mp hunit
    have hsigned : ∃ afterSign, trimStart afterLabel = (if negative then ['-'] else []) ++ afterSign ∧
        Numeral.digitRun? afterSign = some (digits, unitGap ++ (unit.toList ++ rest)) := by
      split at hif
      · rename_i hminus
        rw [hminus] at hrun ⊢
        cases hif
        exact ⟨_, rfl, hrun⟩
      · rename_i hnot
        split at hrun
        · rename_i hminus
          exact (hnot _ hminus).elim
        · cases hif
          exact ⟨_, rfl, hrun⟩
    obtain ⟨afterSign, hsign, hdigits⟩ := hsigned
    obtain ⟨hdecimals, -, rfl⟩ := digitRun?_eq_some hdigits
    refine ⟨⟨margin, label, gap, negative, digits, unitGap, unit, rest⟩,
      ⟨hmargin, mem_lineLabels.mp hmem, hgapBlanks, hdecimals, hunitGap, hunitName, hend⟩, ?_, rfl, rfl⟩
    rw [hline, ← hlabelText, hafterLabel, hsign]
    rfl
  · cases hif

/-! ### Readings -/

/-- A line gives a temperature just when it states it. -/
theorem ofLine?_eq_some : ofLine? line = some t ↔ States line t := by
  have hbound (negative : Bool) (n : Nat) : n < (if negative then 0x80000000 else 0x7FFFFFFF) + 1 ↔
      -2 ^ 31 ≤ (if negative then -(n : Int) else n) ∧ (if negative then -(n : Int) else n) < 2 ^ 31 := by
    cases negative with
    | false =>
      simp only [Bool.false_eq_true, ↓reduceIte]
      omega
    | true =>
      simp only [↓reduceIte]
      omega
  simp only [ofLine?, Option.bind_eq_bind, Option.bind_eq_some_iff, Prod.exists, Numeral.read?_eq_some,
    Option.some.injEq, States]
  constructor
  · rintro ⟨negative, digits, hnumeral, n, ⟨hbelow, rfl⟩, rfl⟩
    obtain ⟨p, hfits, htext, rfl, rfl⟩ := exists_parts hnumeral
    obtain ⟨hlow, hhigh⟩ := (hbound _ _).mp hbelow.2.2
    exact ⟨p, hfits, htext, hbelow.2.1, (Int32.toInt_ofInt_of_le hlow hhigh).symm⟩
  · rintro ⟨p, hfits, htext, hascii, hnumber⟩
    refine ⟨p.isNegative, p.digits, htext ▸ numeral?_text hfits, _, ⟨⟨hfits.digits.1, hascii, ?_⟩, rfl⟩, ?_⟩
    · refine (hbound _ _).mpr ?_
      show -2 ^ 31 ≤ p.number ∧ p.number < 2 ^ 31
      rw [hnumber]
      exact ⟨t.le_toInt, t.toInt_lt⟩
    · show Int32.ofInt p.number = t
      rw [hnumber, Int32.ofInt_toInt]

/-- The first line that states a temperature gives it. -/
theorem ofLines_eq_some : ofLines lines = some t ↔ FirstStates lines t := by
  simp only [FirstStates, ofLines, List.findSome?_eq_some_iff, ← ofLine?_eq_some, Option.eq_none_iff_forall_ne_some,
    ne_eq]

end DriveHealth.Temperature
