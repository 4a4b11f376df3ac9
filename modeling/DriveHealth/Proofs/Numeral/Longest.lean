/-
# The longest numeral

What is read of a text is the longest numeral at its place. A numeral is longest where it has ended (`isLongest_iff`),
since a longer one would go on with a digit, or with a comma and a digit behind it. So a text starts with a numeral just
when it starts with a digit, and what stands behind the longest one does not matter, nor does the place of its commas.

Key definitions: `Numeral.IsLongest`.
Key theorems: `Numeral.IsGrouped.not_endsNumeral`, `Numeral.exists_numeral`, `Numeral.isLongest_iff`,
`Numeral.Opening.Fits.unique`, `Numeral.leadingInt_eq_none`, `Numeral.leadingInt_eq_some`,
`Numeral.leadingInt_regrouped`.
-/
import DriveHealth.Proofs.Numeral.Grouped

namespace DriveHealth.Numeral

open Text

/-- The longest numeral that the text starts with. -/
structure IsLongest (numeral s : List Char) : Prop where
  grouped : IsGrouped numeral
  start : numeral <+: s
  longest : ∀ other, IsGrouped other → other <+: s → other.length ≤ numeral.length

variable {s t numeral numeral' rest more : List Char} {o o' : Opening}

/-! ### Where a numeral ends -/

theorem startsWithDigit_append (h : startsWithDigit s = true) (t : List Char) : startsWithDigit (s ++ t) = true := by
  cases s with
  | nil => cases h
  | cons c s => exact h

/-- What ends a numeral ends it also when it is cut short. -/
theorem EndsNumeral.of_prefix (h : EndsNumeral rest) (hmore : more <+: rest) : EndsNumeral more := by
  obtain ⟨later, rfl⟩ := hmore
  have hnot {s t : List Char} (hst : startsWithDigit (s ++ t) = false) : startsWithDigit s = false := by
    by_contra hs
    rw [startsWithDigit_append (Bool.not_eq_false _ ▸ hs)] at hst
    cases hst
  refine ⟨hnot h.1, ?_⟩
  rintro tail rfl
  exact hnot (h.2 (tail ++ later) rfl)

/-- Where a numeral is cut, it goes on. -/
theorem IsGrouped.not_endsNumeral (h : IsGrouped numeral) (hcut : numeral = t ++ more) (hmore : more ≠ []) :
    ¬ EndsNumeral more := by
  intro hends
  have hfirst {c : Char} {tail digits : List Char} (hdigits : IsDigits digits) (hc : c ∈ digits)
      (heq : more = c :: tail) : False := by
    have hdigit : Numeral.startsWithDigit more = true := heq ▸ hdigits.2 c hc
    rw [hends.1] at hdigit
    cases hdigit
  induction h generalizing t with
  | single hdigits =>
    obtain ⟨c, tail, rfl⟩ := List.exists_cons_of_ne_nil hmore
    exact hfirst hdigits (hcut ▸ by simp) rfl
  | @cons digits later hdigits hlater ih =>
    have hcomma : more ≠ ',' :: later := fun heq => by
      have hdigit := hlater.startsWithDigit []
      rw [List.append_nil, hends.2 later heq] at hdigit
      cases hdigit
    rcases List.append_eq_append_iff.mp hcut with ⟨gap, -, hgap⟩ | ⟨tail, hdigitsCut, htail⟩
    · -- cut behind the digits, at the comma or in a later group
      cases gap with
      | nil => exact hcomma hgap.symm
      | cons c gap => exact ih (List.cons.inj hgap).2
    · cases tail with
      | nil => exact hcomma htail
      | cons c tail => exact hfirst hdigits (hdigitsCut ▸ by simp) htail

theorem startsWithDigit_of_stops (h : Stops Char.isDigit s) : startsWithDigit s = false := by
  cases s with
  | nil => rfl
  | cons c s => exact stops_cons.mp h

/-- A text that starts with a digit starts with a numeral that ends in it. -/
theorem exists_numeral (s : List Char) (h : startsWithDigit s = true) :
    ∃ numeral rest, IsGrouped numeral ∧ EndsNumeral rest ∧ s = numeral ++ rest := by
  have hsplit : s = s.takeWhile Char.isDigit ++ s.dropWhile Char.isDigit := List.takeWhile_append_dropWhile.symm
  have hdigits : IsDigits (s.takeWhile Char.isDigit) := by
    refine ⟨fun hnil => ?_, fun c hc => List.mem_takeWhile_imp hc⟩
    rw [hnil, List.nil_append] at hsplit
    rw [hsplit, startsWithDigit_of_stops (stops_dropWhile Char.isDigit s)] at h
    cases h
  by_cases hcomma : ∃ later, s.dropWhile Char.isDigit = ',' :: later ∧ startsWithDigit later = true
  · obtain ⟨later, hrest, hlater⟩ := hcomma
    have hshorter : later.length < s.length := by
      rw [hsplit, hrest, List.length_append, List.length_cons]
      omega
    -- the groups behind the comma are a numeral again
    obtain ⟨numeral, rest, hnumeral, hends, rfl⟩ := exists_numeral later hlater
    refine ⟨s.takeWhile Char.isDigit ++ ',' :: numeral, rest, .cons hdigits hnumeral, hends, ?_⟩
    rw [List.append_assoc, List.cons_append, ← hrest]
    exact hsplit
  · refine ⟨_, _, .single hdigits, ⟨startsWithDigit_of_stops (stops_dropWhile Char.isDigit s), ?_⟩, hsplit⟩
    intro later hrest
    by_contra hlater
    exact hcomma ⟨later, hrest, Bool.not_eq_false _ ▸ hlater⟩
termination_by s.length

/-- No numeral at the start of the text is longer than one that has ended. -/
theorem isLongest_of_ends (hnumeral : IsGrouped numeral) (hrest : EndsNumeral rest) :
    IsLongest numeral (numeral ++ rest) := by
  refine ⟨hnumeral, List.prefix_append _ _, fun other hother hstart => ?_⟩
  by_contra hlt
  obtain ⟨more, rfl⟩ := List.prefix_of_prefix_length_le (List.prefix_append numeral rest) hstart (by omega)
  have hmore : more <+: rest := (List.prefix_append_right_inj numeral).mp hstart
  refine hother.not_endsNumeral rfl ?_ (hrest.of_prefix hmore)
  rintro rfl
  simp at hlt

theorem IsLongest.startsWithDigit (h : IsLongest numeral s) : startsWithDigit s = true := by
  obtain ⟨rest, rfl⟩ := h.start
  exact h.grouped.startsWithDigit rest

/-- A text starts with one longest numeral only. -/
theorem IsLongest.unique (h : IsLongest numeral s) (h' : IsLongest numeral' s) : numeral = numeral' := by
  have hle := h.longest numeral' h'.grouped h'.start
  have hge := h'.longest numeral h.grouped h.start
  exact (List.prefix_of_prefix_length_le h.start h'.start hge).eq_of_length (Nat.le_antisymm hge hle)

/-- The longest numeral is the one that ends in the text. -/
theorem isLongest_iff : IsLongest numeral s ↔ IsGrouped numeral ∧ ∃ rest, EndsNumeral rest ∧ s = numeral ++ rest := by
  constructor
  · intro h
    obtain ⟨numeral', rest, hnumeral', hrest, rfl⟩ := exists_numeral s h.startsWithDigit
    obtain rfl := h.unique (isLongest_of_ends hnumeral' hrest)
    exact ⟨h.grouped, rest, hrest, rfl⟩
  · rintro ⟨hnumeral, rest, hrest, rfl⟩
    exact isLongest_of_ends hnumeral hrest

/-- A text starts with a longest numeral unless no digit stands first. -/
theorem no_digit_or_isLongest (s : List Char) : startsWithDigit s = false ∨ ∃ numeral, IsLongest numeral s := by
  cases hdigit : startsWithDigit s with
  | false => exact .inl rfl
  | true =>
    obtain ⟨numeral, rest, hnumeral, hends, rfl⟩ := exists_numeral s hdigit
    exact .inr ⟨numeral, isLongest_of_ends hnumeral hends⟩

theorem forall_not_prefix_iff : (∀ p, IsGrouped p → ¬ p <+: s) ↔ startsWithDigit s = false := by
  constructor
  · intro hno
    rcases no_digit_or_isLongest s with hdigit | ⟨numeral, hlongest⟩
    · exact hdigit
    · exact absurd hlongest.start (hno numeral hlongest.grouped)
  · rintro hdigit numeral hnumeral ⟨rest, rfl⟩
    rw [hnumeral.startsWithDigit rest] at hdigit
    cases hdigit

/-- Another numeral before the same text is the longest one too. -/
theorem IsLongest.of_append (h : IsLongest numeral (numeral ++ rest)) (h' : IsGrouped numeral') :
    IsLongest numeral' (numeral' ++ rest) := by
  obtain ⟨-, rest', hends, heq⟩ := isLongest_iff.mp h
  rw [List.append_cancel_left heq]
  exact isLongest_of_ends h' hends

/-- Without its commas a numeral is a numeral of the same digits. -/
theorem IsGrouped.ungrouped (h : IsGrouped numeral) :
    IsGrouped (Numeral.ungrouped numeral) ∧ Numeral.ungrouped (Numeral.ungrouped numeral) = Numeral.ungrouped numeral :=
  ⟨.single (isDigits_ungrouped h), ungrouped_digits (isDigits_ungrouped h).2⟩

/-! ### Blanks and sign -/

theorem Opening.Fits.unique (h : o.Fits) (h' : o'.Fits) (heq : o.text = o'.text) : o = o' := by
  obtain ⟨hblanks, hsigned⟩ := run_cancel h.blanks h.stops h'.blanks h'.stops heq
  have hsign := h.sign_eq
  rw [hsigned, h'.sign_eq] at hsign
  have hrest : o'.rest = o.rest := congrArg Prod.snd hsign
  rw [hrest] at hsigned
  obtain ⟨blanks, sign, rest⟩ := o
  obtain ⟨blanks', sign', rest'⟩ := o'
  cases hblanks
  cases hrest
  cases List.append_cancel_right hsigned
  rfl

/-- Every text can be cut behind its blanks and its sign. -/
theorem exists_opening (s : List Char) : ∃ o : Opening, o.Fits ∧ o.text = s := by
  obtain ⟨blanks, hblanks, hs⟩ := exists_blanks_trimStart s
  have hstops : Stops isBlank (trimStart s) := stops_dropWhile isBlank s
  by_cases hsign : ∃ c rest, (c = '+' ∨ c = '-') ∧ trimStart s = c :: rest
  · obtain ⟨c, rest, hc, hrest⟩ := hsign
    refine ⟨⟨blanks, [c], rest⟩, ⟨hblanks, .inr ?_, fun h => absurd h (List.cons_ne_nil _ _)⟩, ?_⟩
    · simpa using hc
    · rw [hs, hrest]
      rfl
  · refine ⟨⟨blanks, [], trimStart s⟩, ⟨hblanks, .inl rfl, fun _ c hc => ?_⟩, hs.symm⟩
    obtain ⟨rest, hrest⟩ := List.head?_eq_some_iff.mp hc
    refine ⟨hstops c hc, ?_, ?_⟩
    · rintro rfl
      exact hsign ⟨_, rest, .inl rfl, hrest⟩
    · rintro rfl
      exact hsign ⟨_, rest, .inr rfl, hrest⟩

/-! ### What is read -/

theorem groupedDigits_of_no_digit (h : startsWithDigit s = false) : groupedDigits false s = [] := by
  cases s with
  | nil => rfl
  | cons c s =>
    have hc : ¬ c.isDigit = true := Bool.not_eq_true _ ▸ h
    rw [groupedDigits, if_neg hc, if_neg (by simp)]

theorem leadingInt_of_no_digit (h : o.Fits) (hno : startsWithDigit o.rest = false) : leadingInt o.text = none := by
  rw [h.leadingInt_text, groupedDigits_of_no_digit hno]
  rfl

theorem leadingInt_of_isLongest (h : o.Fits) (hlongest : IsLongest numeral o.rest) : leadingInt o.text =
    if value (ungrouped numeral) ≤ maxSigned64 then some (o.signed (value (ungrouped numeral))) else none := by
  obtain ⟨hnumeral, rest, hends, hrest⟩ := isLongest_iff.mp hlongest
  exact h.leadingInt_numeral hnumeral hends hrest

/-- Every integer is that of the longest numeral. -/
theorem leadingInt_eq_some (h : o.Fits) {n : Int} : leadingInt o.text = some n ↔
    ∃ p, IsLongest p o.rest ∧ value (ungrouped p) ≤ maxSigned64 ∧ n = o.signed (value (ungrouped p)) := by
  constructor
  · intro hread
    rcases no_digit_or_isLongest o.rest with hno | ⟨p, hlongest⟩
    · rw [leadingInt_of_no_digit h hno] at hread
      cases hread
    · rw [leadingInt_of_isLongest h hlongest] at hread
      split at hread
      · rename_i hle
        exact ⟨p, hlongest, hle, (Option.some.inj hread).symm⟩
      · cases hread
  · rintro ⟨p, hlongest, hle, rfl⟩
    rw [leadingInt_of_isLongest h hlongest, if_pos hle]

/-- No integer is read where no numeral stands, and where the longest one exceeds 63 bits. -/
theorem leadingInt_eq_none (h : o.Fits) : leadingInt o.text = none ↔
    (∀ p, IsGrouped p → ¬ p <+: o.rest) ∨ ∃ p, IsLongest p o.rest ∧ maxSigned64 < value (ungrouped p) := by
  rw [forall_not_prefix_iff]
  constructor
  · intro hread
    refine (no_digit_or_isLongest o.rest).imp_right fun ⟨p, hlongest⟩ => ⟨p, hlongest, ?_⟩
    by_contra hle
    rw [leadingInt_of_isLongest h hlongest, if_pos (Nat.le_of_not_lt hle)] at hread
    cases hread
  · rintro (hno | ⟨p, hlongest, hlt⟩)
    · exact leadingInt_of_no_digit h hno
    · rw [leadingInt_of_isLongest h hlongest, if_neg (Nat.not_le_of_lt hlt)]

/-- Only the sign and the digits of the longest numeral matter. -/
theorem leadingInt_congr (h : o.Fits) (h' : o'.Fits) (hsign : o'.sign = o.sign) (hlongest : IsLongest numeral o.rest)
    (hlongest' : IsLongest numeral' o'.rest) (hdigits : ungrouped numeral' = ungrouped numeral) :
    leadingInt o'.text = leadingInt o.text := by
  rw [leadingInt_of_isLongest h hlongest, leadingInt_of_isLongest h' hlongest', hdigits, Opening.signed, hsign,
    Opening.signed]

/-- Behind the same blanks and sign another numeral of the same digits is read alike, whatever stands behind it. -/
theorem leadingInt_regrouped (h : o.Fits) (hlongest : IsLongest numeral o.rest)
    (hlongest' : IsLongest numeral' (numeral' ++ rest)) (hdigits : ungrouped numeral' = ungrouped numeral) :
    leadingInt (o.blanks ++ (o.sign ++ (numeral' ++ rest))) = leadingInt o.text := by
  obtain ⟨hnumeral', rest', hends, heq⟩ := isLongest_iff.mp hlongest'
  obtain rfl := List.append_cancel_left heq
  have hfits : (⟨o.blanks, o.sign, numeral', rest⟩ : Leading).Fits := ⟨h.blanks, h.sign, hnumeral', hends⟩
  exact leadingInt_congr h hfits.opening rfl hlongest hlongest' hdigits

end DriveHealth.Numeral
