/-
# Numerals in groups

An integer at the start of a text is blanks, at most one sign and a numeral, whose digits may stand in
groups with one comma between two of them. The numeral goes on as long as it can. It is read as the number
that its digits denote without the commas, and it is not read at all when that number exceeds 63 bits.

Key definitions: `Numeral.IsGrouped`, `Numeral.ungrouped`, `Numeral.Opening`, `Numeral.Leading`,
`Numeral.CountsTo`.
Key theorems: `Numeral.groupedDigits_of_isGrouped`, `Numeral.Opening.Fits.leadingInt_text`,
`Numeral.Opening.Fits.leadingInt_numeral`, `Numeral.leadingInt_whole`, `Numeral.leadingInt_of_countsTo`.
-/
import DriveHealth.Proofs.Text.Cells

namespace DriveHealth.Numeral

open Text

/-! ### Digits and groups -/

/-- ASCII digits, at least one. -/
def IsDigits (s : List Char) : Prop := s ≠ [] ∧ ∀ c ∈ s, c.isDigit = true

instance (s : List Char) : Decidable (IsDigits s) :=
  decidable_of_iff (s ≠ [] ∧ s.all Char.isDigit = true) (and_congr_right fun _ => List.all_eq_true)

/-- Groups of digits with one comma between two of them. -/
inductive IsGrouped : List Char → Prop
  | single {digits : List Char} (h : IsDigits digits) : IsGrouped digits
  | cons {digits later : List Char} (h : IsDigits digits) (hlater : IsGrouped later) :
      IsGrouped (digits ++ ',' :: later)

/-- The numeral without its commas. -/
def ungrouped (numeral : List Char) : List Char := numeral.filter fun c => c ≠ ','

/-- A numeral before the text does not go on in it: it starts neither with a digit nor with a comma before
a digit. -/
def EndsNumeral (s : List Char) : Prop :=
  startsWithDigit s = false ∧ ∀ later, s = ',' :: later → startsWithDigit later = false

variable {s digits numeral rest : List Char} {begun : Bool}

theorem isDigits_toString (n : Nat) : IsDigits (toString n).toList :=
  ⟨(isBelow_toString n.lt_succ_self).1, (isBelow_toString n.lt_succ_self).2.1⟩

theorem ungrouped_digits (h : ∀ c ∈ digits, c.isDigit = true) : ungrouped digits = digits := by
  refine List.filter_eq_self.mpr fun c hc => decide_eq_true fun hcomma => ?_
  have hdigit := h c hc
  rw [hcomma] at hdigit
  cases hdigit

theorem ungrouped_cons (h : IsDigits digits) (later : List Char) :
    ungrouped (digits ++ ',' :: later) = digits ++ ungrouped later := by
  have hdigits := ungrouped_digits h.2
  unfold ungrouped at *
  rw [List.filter_append, hdigits, List.filter_cons_of_neg (by simp)]

theorem isDigits_ungrouped (h : IsGrouped numeral) : IsDigits (ungrouped numeral) := by
  induction h with
  | single h =>
    rw [ungrouped_digits h.2]
    exact h
  | cons h _ ih =>
    rw [ungrouped_cons h]
    refine ⟨fun hnil => h.1 (List.append_eq_nil_iff.mp hnil).1, fun c hc => ?_⟩
    rcases List.mem_append.mp hc with hc | hc
    · exact h.2 c hc
    · exact ih.2 c hc

theorem isDigit_of_startsWithDigit (h : startsWithDigit s = true) : ∀ c ∈ s.head?, c.isDigit = true := by
  cases s with
  | nil => cases h
  | cons d s =>
    rintro c ⟨⟩
    exact h

theorem IsGrouped.startsWithDigit (h : IsGrouped numeral) (rest : List Char) :
    startsWithDigit (numeral ++ rest) = true := by
  have hfirst {digits later : List Char} (h : IsDigits digits) :
      Numeral.startsWithDigit (digits ++ later) = true := by
    obtain ⟨c, digits, rfl⟩ := List.exists_cons_of_ne_nil h.1
    exact h.2 c (by simp)
  cases h with
  | single h => exact hfirst h
  | cons h _ =>
    rw [List.append_assoc]
    exact hfirst h

/-- A run of digits is read digit by digit. -/
theorem groupedDigits_digits (h : IsDigits digits) (begun : Bool) (rest : List Char) :
    groupedDigits begun (digits ++ rest) = digits ++ groupedDigits true rest := by
  obtain ⟨hne, hdigits⟩ := h
  induction digits generalizing begun with
  | nil => exact absurd rfl hne
  | cons c digits ih =>
    rw [List.cons_append, groupedDigits, if_pos (hdigits c (by simp)), List.cons_append]
    rcases digits with _ | ⟨d, digits⟩
    · rfl
    · rw [ih true (by simp) fun x hx => hdigits x (List.mem_cons_of_mem _ hx)]

theorem groupedDigits_of_ends (h : EndsNumeral rest) : groupedDigits begun rest = [] := by
  obtain ⟨hdigit, hcomma⟩ := h
  rcases rest with _ | ⟨c, later⟩
  · rfl
  · have hc : ¬ c.isDigit = true := Bool.not_eq_true _ ▸ hdigit
    rw [groupedDigits, if_neg hc, if_neg]
    rintro ⟨rfl, -, hlater⟩
    rw [hcomma later rfl] at hlater
    cases hlater

/-- A numeral is read to its end, without its commas. -/
theorem groupedDigits_of_isGrouped (h : IsGrouped numeral) (hrest : EndsNumeral rest) (begun : Bool) :
    groupedDigits begun (numeral ++ rest) = ungrouped numeral := by
  induction h generalizing begun with
  | single h => rw [groupedDigits_digits h, groupedDigits_of_ends hrest, List.append_nil, ungrouped_digits h.2]
  | @cons digits later h hlater ih =>
    have hcomma : groupedDigits true (',' :: (later ++ rest)) = groupedDigits true (later ++ rest) := by
      rw [groupedDigits, if_neg (by decide), if_pos ⟨rfl, rfl, hlater.startsWithDigit rest⟩]
    rw [ungrouped_cons h, List.append_assoc, groupedDigits_digits h, List.cons_append, hcomma, ih]

theorem read?_of_isDigits (h : IsDigits digits) (limit : Nat) :
    read? limit digits = if value digits ≤ limit then some (value digits) else none := by
  obtain ⟨hne, hdigits⟩ := h
  have hall : digits.all Char.isDigit = true := List.all_eq_true.mpr hdigits
  simp only [read?, hne, hall, ne_eq, not_false_eq_true, true_and]

/-! ### Blanks and a sign before the numeral -/

/-- A text cut behind its blanks and its sign, where a numeral is looked for. -/
structure Opening where
  blanks : List Char
  sign : List Char
  rest : List Char

namespace Opening

def text (o : Opening) : List Char := o.blanks ++ (o.sign ++ o.rest)

/-- All blanks are cut off, and one sign if there is one. -/
structure Fits (o : Opening) : Prop where
  blanks : IsBlanks o.blanks
  sign : o.sign = [] ∨ o.sign = ['+'] ∨ o.sign = ['-']
  rest : o.sign = [] → ∀ c ∈ o.rest.head?, isBlank c = false ∧ c ≠ '+' ∧ c ≠ '-'

/-- The number with the sign. -/
def signed (o : Opening) (n : Nat) : Int := if o.sign = ['-'] then -(n : Int) else n

variable {o : Opening}

/-- What stands first after the blanks is no blank. -/
theorem Fits.stops (h : o.Fits) : Stops isBlank (o.sign ++ o.rest) := by
  rcases h.sign with hsign | hsign | hsign
  · rw [hsign, List.nil_append]
    exact fun c hc => (h.rest hsign c hc).1
  all_goals
    rw [hsign]
    exact stops_cons.mpr (by decide)

theorem Fits.trimStart_text (h : o.Fits) : trimStart o.text = o.sign ++ o.rest := trimStart_run h.blanks h.stops

theorem Fits.sign_eq (h : o.Fits) : Numeral.sign (o.sign ++ o.rest) = (decide (o.sign = ['-']), o.rest) := by
  rcases h.sign with hsign | hsign | hsign
  · have hrest := h.rest hsign
    rw [hsign, List.nil_append]
    unfold Numeral.sign
    split
    · rename_i heq
      exact absurd rfl (hrest '-' (by simp [heq])).2.2
    · rename_i heq
      exact absurd rfl (hrest '+' (by simp [heq])).2.1
    · rfl
  all_goals
    rw [hsign]
    rfl

theorem Fits.leadingInt_text (h : o.Fits) :
    leadingInt o.text = (read? maxSigned64 (groupedDigits false o.rest)).map o.signed := by
  rw [leadingInt, h.trimStart_text, h.sign_eq]
  dsimp only
  cases read? maxSigned64 (groupedDigits false o.rest) with
  | none => rfl
  | some n => simp [signed]

/-- A numeral is read whole or not at all: without its commas, unless the number exceeds 63 bits. -/
theorem Fits.leadingInt_numeral (h : o.Fits) (hnumeral : IsGrouped numeral) (hends : EndsNumeral rest)
    (hrest : o.rest = numeral ++ rest) : leadingInt o.text =
      if value (ungrouped numeral) ≤ maxSigned64 then some (o.signed (value (ungrouped numeral))) else none := by
  rw [h.leadingInt_text, hrest, groupedDigits_of_isGrouped hnumeral hends,
    read?_of_isDigits (isDigits_ungrouped hnumeral)]
  split <;> rfl

end Opening

/-! ### Integers at the start of a text -/

/-- A text that starts with an integer, cut into its parts. -/
structure Leading where
  blanks : List Char
  sign : List Char
  numeral : List Char
  rest : List Char

namespace Leading

def whole (c : Leading) : List Char := c.blanks ++ (c.sign ++ (c.numeral ++ c.rest))

/-- Every part is what it is called, and the numeral is as long as it can be. -/
structure Fits (c : Leading) : Prop where
  blanks : IsBlanks c.blanks
  sign : c.sign = [] ∨ c.sign = ['+'] ∨ c.sign = ['-']
  numeral : IsGrouped c.numeral
  rest : EndsNumeral c.rest

/-- The number without its sign. -/
def magnitude (c : Leading) : Nat := value (ungrouped c.numeral)

def integer (c : Leading) : Int := if c.sign = ['-'] then -(c.magnitude : Int) else c.magnitude

/-- The text cut before the numeral. -/
def opening (c : Leading) : Opening := ⟨c.blanks, c.sign, c.numeral ++ c.rest⟩

end Leading

variable {c : Leading}

/-- A numeral starts with a digit, which is neither blank nor sign. -/
theorem Leading.Fits.opening (h : c.Fits) : c.opening.Fits := by
  refine ⟨h.blanks, h.sign, fun _ x hx => ?_⟩
  have hdigit : x.isDigit = true := isDigit_of_startsWithDigit (h.numeral.startsWithDigit c.rest) x hx
  refine ⟨not_isBlank_of_isDigit hdigit, ?_, ?_⟩
  all_goals
    rintro rfl
    cases hdigit

/-- **An integer is read whole or not at all.** Its numeral is read without the commas, however the text
goes on, unless the number exceeds 63 bits. -/
theorem leadingInt_whole (h : c.Fits) :
    leadingInt c.whole = if c.magnitude ≤ maxSigned64 then some c.integer else none :=
  h.opening.leadingInt_numeral h.numeral h.rest rfl

/-- An integer that is read has 63 bits and a sign. -/
theorem leadingInt_bounds {i : Int} (h : leadingInt s = some i) : -(maxSigned64 : Int) ≤ i ∧ i ≤ maxSigned64 := by
  rw [leadingInt] at h
  dsimp only at h
  cases hread : read? maxSigned64 (groupedDigits false (Numeral.sign (trimStart s)).2) with
  | none =>
    rw [hread] at h
    cases h
  | some n =>
    have hle : n ≤ maxSigned64 := by
      obtain ⟨hbelow, rfl⟩ := read?_eq_some.mp hread
      exact Nat.le_of_lt_succ hbelow.2.2
    rw [hread] at h
    cases h
    dsimp only
    split <;> omega

/-- The text starts with a numeral of the number `n`, before which at most a plus sign stands. -/
def CountsTo (s : List Char) (n : Nat) : Prop :=
  ∃ c : Leading, c.Fits ∧ c.sign ≠ ['-'] ∧ c.whole = s ∧ c.magnitude = n

theorem leadingInt_of_countsTo {n : Nat} (h : CountsTo s n) :
    leadingInt s = if n ≤ maxSigned64 then some (n : Int) else none := by
  obtain ⟨c, hfits, hsign, rfl, rfl⟩ := h
  rw [leadingInt_whole hfits, Leading.integer, if_neg hsign]

/-- A text of digits counts to the number that they denote. -/
theorem countsTo_of_isDigits (h : IsDigits s) : CountsTo s (value s) := by
  refine ⟨⟨[], [], s, []⟩, ⟨fun c hc => (List.not_mem_nil hc).elim, .inl rfl, .single h, rfl, ?_⟩, by simp, ?_, ?_⟩
  · rintro later ⟨⟩
  · simp [Leading.whole]
  · exact congrArg value (ungrouped_digits h.2)

end DriveHealth.Numeral
