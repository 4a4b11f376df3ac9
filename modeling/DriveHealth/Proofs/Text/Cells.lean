/-
# The cells of a line

A line of columns is written as cells: a word and the gap of blanks after it. Cells leave no choice, since
a word ends at its first blank and a gap at its first character that is not blank (`Cell.cancel`). The
last column does: it is free text between a gap and the blanks at the end, and it may begin or end with
blanks itself. Of all ways to cut it out, the reader takes the one with the longest gap, and of these the
one with the shortest text (`exists_lastCell`).

Key definitions: `Text.IsBlanks`, `Text.IsGap`, `Text.IsWord`, `Text.IsFreeText`, `Text.Cell`,
`Text.LastCell`, `Text.LastCell.Beats`.
Key theorems: `Text.run_cancel`, `Text.column?_text`, `Text.column?_eq_some`, `Text.exists_lastCell`,
`Text.lastColumn?_ne_none`, `Text.forall₂_filterMap`.
-/
import DriveHealth.Numeral
import Mathlib.Data.List.Forall2
import Mathlib.Data.List.TakeWhile
import Mathlib.Tactic.Set

namespace DriveHealth.Text

/-! ### Classes of text -/

/-- Blanks alone, perhaps none. -/
def IsBlanks (s : List Char) : Prop := ∀ c ∈ s, isBlank c = true

/-- One or more blanks. -/
def IsGap (s : List Char) : Prop := s ≠ [] ∧ IsBlanks s

/-- One or more characters of which none is blank. -/
def IsWord (s : List Char) : Prop := s ≠ [] ∧ ∀ c ∈ s, isBlank c = false

/-- One or more characters of which none is a line feed. -/
def IsFreeText (s : List Char) : Prop := s ≠ [] ∧ '\n' ∉ s

/-- One or more decimal digits, of any script. -/
def IsDecimals (s : List Char) : Prop := s ≠ [] ∧ ∀ c ∈ s, isDecimal c = true

/-- No run of the class goes on in the text: it is empty or begins with another character. -/
def Stops (p : Char → Bool) (s : List Char) : Prop := ∀ c ∈ s.head?, p c = false

variable {p : Char → Bool} {c : Char} {run run' s t gap word rest digits : List Char}

theorem not_isBlank_of_isDecimal (h : isDecimal c = true) : isBlank c = false := by
  cases hb : isBlank c with
  | false => rfl
  | true =>
    have hall : (blanks.all fun b => !isDecimal b) = true := by decide +kernel
    have hc := List.all_eq_true.mp hall c (isBlank_iff.mp hb)
    rw [h] at hc
    cases hc

theorem IsDecimals.isWord (h : IsDecimals s) : IsWord s :=
  ⟨h.1, fun c hc => not_isBlank_of_isDecimal (h.2 c hc)⟩

theorem isBlanks_cons : IsBlanks (c :: s) ↔ isBlank c = true ∧ IsBlanks s := List.forall_mem_cons

theorem isBlanks_append : IsBlanks (s ++ t) ↔ IsBlanks s ∧ IsBlanks t := List.forall_mem_append

theorem IsGap.append_blank (h : IsGap s) (hc : isBlank c = true) : IsGap (s ++ [c]) :=
  ⟨by simp, isBlanks_append.mpr ⟨h.2, isBlanks_cons.mpr ⟨hc, fun _ hx => (List.not_mem_nil hx).elim⟩⟩⟩

theorem isGap_space : IsGap [' '] := by
  refine ⟨List.cons_ne_nil _ _, fun c hc => ?_⟩
  rw [List.mem_singleton.mp hc]
  decide

/-! ### Runs -/

theorem stops_nil : Stops p [] := by
  intro c hc
  cases hc

theorem stops_cons : Stops p (c :: s) ↔ p c = false := by
  unfold Stops
  rw [List.head?_cons]
  simp

theorem stops_dropWhile (p : Char → Bool) (s : List Char) : Stops p (s.dropWhile p) := by
  induction s with
  | nil => exact stops_nil
  | cons c s ih =>
    by_cases hc : p c = true
    · rw [List.dropWhile_cons_of_pos hc]
      exact ih
    · rw [List.dropWhile_cons_of_neg hc]
      exact stops_cons.mpr (by simpa using hc)

theorem Stops.append (h : Stops p s) (hne : s ≠ []) (t : List Char) : Stops p (s ++ t) := by
  cases s with
  | nil => exact absurd rfl hne
  | cons c s => exact stops_cons.mpr (stops_cons.mp h)

/-- What begins with a character outside of the class stops the class. -/
theorem stops_of_forall (h : ∀ c ∈ s, p c = false) : Stops p s := fun c hc => h c (List.mem_of_mem_head? hc)

theorem IsWord.stops (h : IsWord s) (t : List Char) : Stops isBlank (s ++ t) :=
  (stops_of_forall h.2).append h.1 t

/-- A gap ends a run of characters that are not blank. -/
theorem IsGap.stops (h : IsGap s) (hp : ∀ c, isBlank c = true → p c = false) (t : List Char) :
    Stops p (s ++ t) :=
  (stops_of_forall fun c hc => hp c (h.2 c hc)).append h.1 t

theorem isBlank_not_decimal (c : Char) (h : isBlank c = true) : isDecimal c = false := by
  cases hd : isDecimal c with
  | false => rfl
  | true =>
    rw [not_isBlank_of_isDecimal hd] at h
    cases h

theorem takeWhile_run (hrun : ∀ c ∈ run, p c = true) (hs : Stops p s) : (run ++ s).takeWhile p = run := by
  have hnil : s.takeWhile p = [] := by
    cases s with
    | nil => rfl
    | cons c s => exact List.takeWhile_cons_of_neg (by simp [stops_cons.mp hs])
  rw [List.takeWhile_append_of_pos hrun, hnil, List.append_nil]

theorem dropWhile_run (hrun : ∀ c ∈ run, p c = true) (hs : Stops p s) : (run ++ s).dropWhile p = s := by
  rw [List.dropWhile_append_of_pos hrun]
  cases s with
  | nil => rfl
  | cons c s => exact List.dropWhile_cons_of_neg (by simp [stops_cons.mp hs])

/-- A text begins with one run of a class only. -/
theorem run_cancel (hrun : ∀ c ∈ run, p c = true) (hs : Stops p s) (hrun' : ∀ c ∈ run', p c = true)
    (ht : Stops p t) (h : run ++ s = run' ++ t) : run = run' ∧ s = t := by
  constructor
  · rw [← takeWhile_run hrun hs, h, takeWhile_run hrun' ht]
  · rw [← dropWhile_run hrun hs, h, dropWhile_run hrun' ht]

/-- A run at the start of a text is no longer than the longest one. -/
theorem length_run_le (hrun : ∀ c ∈ run, p c = true) (h : run ++ t = s) :
    run.length ≤ (s.takeWhile p).length := by
  rw [← h, List.takeWhile_append_of_pos hrun, List.length_append]
  exact Nat.le_add_right _ _

theorem trimStart_run (hrun : IsBlanks run) (hs : Stops isBlank s) : trimStart (run ++ s) = s :=
  dropWhile_run hrun hs

theorem exists_blanks_trimStart (s : List Char) : ∃ lead, IsBlanks lead ∧ s = lead ++ trimStart s := by
  refine ⟨s.takeWhile isBlank, fun c hc => List.mem_takeWhile_imp hc, ?_⟩
  exact List.takeWhile_append_dropWhile.symm

/-! ### Gaps, digits and words -/

theorem afterGap?_append (hgap : IsGap gap) (hs : Stops isBlank s) : afterGap? (gap ++ s) = some s := by
  obtain ⟨hne, hblank⟩ := hgap
  cases gap with
  | nil => exact absurd rfl hne
  | cons c gap =>
    obtain ⟨hc, hrest⟩ := isBlanks_cons.mp hblank
    rw [List.cons_append, afterGap?, if_pos hc, trimStart_run hrest hs]

theorem afterGap?_eq_some (h : afterGap? s = some rest) :
    Stops isBlank rest ∧ ∃ gap, IsGap gap ∧ s = gap ++ rest := by
  cases s with
  | nil => cases h
  | cons c s =>
    rw [afterGap?] at h
    split at h
    · rename_i hc
      cases h
      obtain ⟨lead, hlead, hs⟩ := exists_blanks_trimStart s
      refine ⟨stops_dropWhile isBlank s, c :: lead, ⟨List.cons_ne_nil _ _, isBlanks_cons.mpr ⟨hc, hlead⟩⟩, ?_⟩
      rw [List.cons_append, ← hs]
    · cases h

theorem digitRun?_append (hdigits : IsDecimals digits) (hs : Stops isDecimal s) :
    Numeral.digitRun? (digits ++ s) = some (digits, s) := by
  unfold Numeral.digitRun?
  rw [takeWhile_run hdigits.2 hs, dropWhile_run hdigits.2 hs, if_neg hdigits.1]

theorem digitRun?_eq_some (h : Numeral.digitRun? s = some (digits, rest)) :
    IsDecimals digits ∧ Stops isDecimal rest ∧ s = digits ++ rest := by
  unfold Numeral.digitRun? at h
  dsimp only at h
  split at h
  · cases h
  · rename_i hne
    cases h
    exact ⟨⟨hne, fun c hc => List.mem_takeWhile_imp hc⟩, stops_dropWhile isDecimal s,
      List.takeWhile_append_dropWhile.symm⟩

theorem IsWord.all_not_isBlank (h : IsWord word) : ∀ c ∈ word, (!isBlank c) = true := by
  intro c hc
  rw [h.2 c hc, Bool.not_false]

theorem token?_append (hword : IsWord word) (hs : Stops (fun c => !isBlank c) s) :
    token? (word ++ s) = some (word, s) := by
  unfold token?
  rw [takeWhile_run hword.all_not_isBlank hs, dropWhile_run hword.all_not_isBlank hs, if_neg hword.1]

theorem token?_eq_some (h : token? s = some (word, rest)) : IsWord word ∧ s = word ++ rest := by
  unfold token? at h
  dsimp only at h
  split at h
  · cases h
  · rename_i hne
    cases h
    refine ⟨⟨hne, fun c hc => ?_⟩, List.takeWhile_append_dropWhile.symm⟩
    have hnot := List.mem_takeWhile_imp hc
    simpa using hnot

/-! ### Cells -/

/-- A word and the gap after it. -/
structure Cell where
  word : List Char
  gap : List Char
  deriving DecidableEq

namespace Cell

def text (c : Cell) : List Char := c.word ++ c.gap

/-- The word has the property, and there is a gap after it. -/
def Holds (P : List Char → Prop) (c : Cell) : Prop := P c.word ∧ IsGap c.gap

variable {P Q : List Char → Prop} {a b : Cell}

theorem Holds.mono (h : a.Holds P) (hPQ : ∀ w, P w → Q w) : a.Holds Q := ⟨hPQ _ h.1, h.2⟩

theorem Holds.stops (h : a.Holds IsWord) (s : List Char) : Stops isBlank (a.text ++ s) := by
  rw [text, List.append_assoc]
  exact h.1.stops _

/-- A text begins with one cell only. -/
theorem cancel (ha : a.Holds IsWord) (hs : Stops isBlank s) (hb : b.Holds IsWord) (ht : Stops isBlank t)
    (h : a.text ++ s = b.text ++ t) : a = b ∧ s = t := by
  have hblank : ∀ c, isBlank c = true → (!isBlank c) = false := fun c hc => by rw [hc, Bool.not_true]
  rw [text, text, List.append_assoc, List.append_assoc] at h
  obtain ⟨hword, hrest⟩ := run_cancel ha.1.all_not_isBlank (ha.2.stops hblank s) hb.1.all_not_isBlank
    (hb.2.stops hblank t) h
  obtain ⟨hgap, hst⟩ := run_cancel ha.2.2 hs hb.2.2 ht hrest
  obtain ⟨aword, agap⟩ := a
  obtain ⟨bword, bgap⟩ := b
  cases hword
  cases hgap
  exact ⟨rfl, hst⟩

end Cell

variable {accept : List Char → Bool} {a : Cell}

theorem column?_text (ha : a.Holds IsWord) (hs : Stops isBlank s) (haccept : accept a.word = true) :
    column? accept (a.text ++ s) = some (a.word, s) := by
  have hblank : ∀ c, isBlank c = true → (!isBlank c) = false := fun c hc => by rw [hc, Bool.not_true]
  rw [column?, Cell.text, List.append_assoc, token?_append ha.1 (ha.2.stops hblank s)]
  simp only [Option.bind_eq_bind, Option.bind_some, afterGap?_append ha.2 hs, haccept, ↓reduceIte]

theorem column?_eq_some (h : column? accept s = some (word, rest)) : accept word = true ∧
    Stops isBlank rest ∧ ∃ a : Cell, a.word = word ∧ a.Holds IsWord ∧ s = a.text ++ rest := by
  simp only [column?, Option.bind_eq_bind, Option.bind_eq_some_iff, Prod.exists] at h
  obtain ⟨token, s', htoken, s'', hgap, hif⟩ := h
  split at hif
  · rename_i haccept
    cases hif
    obtain ⟨hword, rfl⟩ := token?_eq_some htoken
    obtain ⟨hstops, gap, hisGap, rfl⟩ := afterGap?_eq_some hgap
    refine ⟨haccept, hstops, ⟨word, gap⟩, rfl, ⟨hword, hisGap⟩, ?_⟩
    rw [Cell.text, List.append_assoc]
  · cases hif

/-! ### Trimming the end -/

theorem exists_blanks_trimEnd (s : List Char) : ∃ trail, IsBlanks trail ∧ s = trimEnd s ++ trail := by
  refine ⟨(s.reverse.takeWhile isBlank).reverse, fun c hc => ?_, ?_⟩
  · exact List.mem_takeWhile_imp (List.mem_reverse.mp hc)
  · rw [trimEnd, ← List.reverse_append, List.takeWhile_append_dropWhile, List.reverse_reverse]

/-- What is left at the end is not blank. -/
theorem stops_reverse_trimEnd (s : List Char) : Stops isBlank (trimEnd s).reverse := by
  rw [trimEnd, List.reverse_reverse]
  exact stops_dropWhile isBlank _

/-- No blanks can be cut off the end of a text whose last character is not blank. -/
theorem eq_nil_of_trimmed (hstops : Stops isBlank (s ++ rest).reverse) (hrest : IsBlanks rest) : rest = [] := by
  rcases List.eq_nil_or_concat rest with rfl | ⟨rest, c, rfl⟩
  · rfl
  · rw [List.concat_eq_append, ← List.append_assoc, List.reverse_append] at hstops
    have hnot : isBlank c = false := stops_cons.mp hstops
    rw [hrest c (by simp)] at hnot
    cases hnot

/-! ### The last cell -/

/-- The last column with the gap before it and the blanks after it. -/
structure LastCell where
  gap : List Char
  text : List Char
  rest : List Char
  deriving DecidableEq

namespace LastCell

def whole (c : LastCell) : List Char := c.gap ++ c.text ++ c.rest

structure Fits (c : LastCell) : Prop where
  gap : IsGap c.gap
  text : IsFreeText c.text
  rest : IsBlanks c.rest

/-- The gap is longer, or else it is as long and the text is shorter. -/
def Beats (c d : LastCell) : Prop :=
  d.gap.length < c.gap.length ∨ d.gap.length = c.gap.length ∧ c.text.length < d.text.length

/-- The cell beats all others that its text can be cut into. -/
def IsBest (c : LastCell) : Prop := ∀ d : LastCell, d.Fits → d.whole = c.whole → d = c ∨ c.Beats d

theorem whole_eq (c : LastCell) : c.whole = c.gap ++ (c.text ++ c.rest) := List.append_assoc _ _ _

variable {c d : LastCell}

theorem Fits.stops_whole (h : c.Fits) : Stops (fun x => !isBlank x) c.whole := by
  rw [whole_eq]
  exact h.gap.stops (fun x hx => by rw [hx, Bool.not_true]) _

/-- A gap and a text of the same lengths are the same. -/
theorem eq_of_lengths (h : d.whole = c.whole) (hgap : d.gap.length = c.gap.length)
    (htext : d.text.length = c.text.length) : d = c := by
  obtain ⟨gap, text, rest⟩ := c
  obtain ⟨gap', text', rest'⟩ := d
  rw [whole_eq, whole_eq] at h
  obtain ⟨rfl, htail⟩ := List.append_inj h hgap
  obtain ⟨rfl, rfl⟩ := List.append_inj htail htext
  rfl

/-- A cell whose gap is the longest run of blanks is best when its text ends with no blank. -/
theorem isBest_of_trimmed (hgap : c.gap = c.whole.takeWhile isBlank) (hend : Stops isBlank c.text.reverse) :
    c.IsBest := by
  intro d hd hwhole
  have hle : d.gap.length ≤ c.gap.length := by
    rw [hgap]
    exact length_run_le hd.gap.2 ((whole_eq d).symm.trans hwhole)
  rcases Nat.lt_or_eq_of_le hle with hlt | hlen
  · exact .inr (.inl hlt)
  rcases Nat.lt_or_ge c.text.length d.text.length with hlt | hge
  · exact .inr (.inr ⟨hlen, hlt⟩)
  -- a shorter text would leave the last character of `c.text`, no blank, among the blanks at the end
  left
  rw [whole_eq, whole_eq] at hwhole
  obtain ⟨-, htail⟩ := List.append_inj hwhole hlen
  obtain ⟨more, hmore⟩ : d.text <+: c.text := by
    refine List.prefix_of_prefix_length_le ?_ (List.prefix_append c.text c.rest) hge
    rw [← htail]
    exact List.prefix_append _ _
  have hnil : more = [] := by
    refine eq_nil_of_trimmed (s := d.text) (by rwa [hmore]) fun x hx => hd.rest x ?_
    have hrest : d.rest = more ++ c.rest := by
      rw [← hmore, List.append_assoc] at htail
      exact List.append_cancel_left htail
    rw [hrest]
    exact List.mem_append_left _ hx
  rw [hnil, List.append_nil] at hmore
  refine eq_of_lengths ?_ hlen (by rw [hmore])
  rw [whole_eq, whole_eq]
  exact hwhole

/-- In a text of blanks the best last column is the last blank that is no line feed. -/
theorem isBest_of_blank {x : Char} (htext : c.text = [x]) (hrest : ∀ y ∈ c.rest, y = '\n') : c.IsBest := by
  intro d hd hwhole
  rw [whole_eq, whole_eq, htext] at hwhole
  rcases Nat.lt_trichotomy d.gap.length c.gap.length with hlt | hlen | hgt
  · exact .inr (.inl hlt)
  · have hpos : 0 < d.text.length := List.length_pos_iff.mpr hd.text.1
    have hone : c.text.length = 1 := by rw [htext, List.length_singleton]
    rcases Nat.lt_or_ge 1 d.text.length with hlong | hshort
    · exact .inr (.inr ⟨hlen, by omega⟩)
    · refine .inl (eq_of_lengths ?_ hlen (by omega))
      rw [whole_eq, whole_eq, htext]
      exact hwhole
  · -- a longer gap would leave a line feed as the first character of the text
    exfalso
    obtain ⟨first, later, hsplit⟩ := List.exists_cons_of_ne_nil hd.text.1
    have hfront : c.gap ++ [x] <+: c.gap ++ ([x] ++ c.rest) := by
      rw [← List.append_assoc]
      exact List.prefix_append _ _
    have hdgap : d.gap <+: c.gap ++ ([x] ++ c.rest) := by
      rw [← hwhole]
      exact List.prefix_append _ _
    obtain ⟨more, hmore⟩ : c.gap ++ [x] <+: d.gap := by
      refine List.prefix_of_prefix_length_le hfront hdgap ?_
      rw [List.length_append, List.length_singleton]
      exact Nat.succ_le_of_lt hgt
    rw [← hmore, List.append_assoc, List.append_assoc] at hwhole
    have htail : more ++ (d.text ++ d.rest) = c.rest :=
      List.append_cancel_left (List.append_cancel_left hwhole)
    have hmem : first ∈ c.rest := by
      rw [← htail, hsplit]
      simp
    refine hd.text.2 ?_
    rw [hsplit, ← hrest first hmem]
    exact List.mem_cons_self

end LastCell

/-- Nothing but blanks is left of a text whose end is trimmed away after the gap. -/
theorem isBlanks_of_trimEnd_eq_nil (h : trimEnd (s.dropWhile isBlank) = []) :
    s.takeWhile isBlank = s ∧ IsBlanks s := by
  have hsplit : s.takeWhile isBlank ++ s.dropWhile isBlank = s := List.takeWhile_append_dropWhile
  have hnil : s.dropWhile isBlank = [] := by
    obtain ⟨trail, htrail, hbody⟩ := exists_blanks_trimEnd (s.dropWhile isBlank)
    have hstops := stops_dropWhile isBlank s
    rw [h, List.nil_append] at hbody
    rw [hbody] at hstops ⊢
    cases trail with
    | nil => rfl
    | cons c trail =>
      have hnot : isBlank c = false := stops_cons.mp hstops
      rw [htrail c List.mem_cons_self] at hnot
      cases hnot
  rw [hnil, List.append_nil] at hsplit
  refine ⟨hsplit, fun c hc => ?_⟩
  rw [← hsplit] at hc
  exact List.mem_takeWhile_imp hc

/-- The last column is cut out in the best way. -/
theorem exists_lastCell {text : List Char} (h : lastColumn? s = some text) :
    ∃ c : LastCell, c.Fits ∧ c.whole = s ∧ c.text = text ∧ c.IsBest := by
  unfold lastColumn? at h
  dsimp only at h
  have hsplit : s.takeWhile isBlank ++ s.dropWhile isBlank = s := List.takeWhile_append_dropWhile
  have hblank : IsBlanks (s.takeWhile isBlank) := fun c hc => List.mem_takeWhile_imp hc
  split at h
  · cases h
  rename_i hgap
  split at h
  · rename_i hne
    split at h
    · cases h
    · rename_i hfeed
      cases h
      obtain ⟨trail, htrail, hbody⟩ := exists_blanks_trimEnd (s.dropWhile isBlank)
      have hwhole : (⟨s.takeWhile isBlank, trimEnd (s.dropWhile isBlank), trail⟩ : LastCell).whole = s := by
        rw [LastCell.whole_eq]
        dsimp only
        rw [← hbody, hsplit]
      refine ⟨⟨s.takeWhile isBlank, trimEnd (s.dropWhile isBlank), trail⟩,
        ⟨⟨hgap, hblank⟩, ⟨hne, hfeed⟩, htrail⟩, hwhole, rfl, ?_⟩
      refine LastCell.isBest_of_trimmed ?_ (stops_reverse_trimEnd _)
      rw [hwhole]
  · rename_i hnil
    obtain ⟨hs, hall⟩ := isBlanks_of_trimEnd_eq_nil (not_not.mp hnil)
    rw [hs] at h hgap
    obtain ⟨x, hx, rfl⟩ := Option.map_eq_some_iff.mp h
    obtain ⟨g, tail, rfl⟩ := List.exists_cons_of_ne_nil hgap
    obtain ⟨hxfeed, after, before, hrev, hafter⟩ := List.find?_eq_some_iff_append.mp hx
    have htail : tail = before.reverse ++ x :: after.reverse := by
      have hback := congrArg List.reverse hrev
      simpa using hback
    have hwhole : (⟨g :: before.reverse, [x], after.reverse⟩ : LastCell).whole = g :: tail := by
      rw [LastCell.whole_eq, htail]
      simp
    have hmem : ∀ y ∈ (g :: before.reverse) ++ ([x] ++ after.reverse), isBlank y = true := by
      intro y hy
      refine hall y ?_
      rw [← hwhole, LastCell.whole_eq]
      exact hy
    refine ⟨⟨g :: before.reverse, [x], after.reverse⟩, ⟨⟨List.cons_ne_nil _ _, fun y hy => ?_⟩,
      ⟨List.cons_ne_nil _ _, ?_⟩, fun y hy => ?_⟩, hwhole, rfl, ?_⟩
    · exact hmem y (List.mem_append_left _ hy)
    · intro hfeed
      rw [← List.mem_singleton.mp hfeed] at hxfeed
      simp at hxfeed
    · exact hmem y (List.mem_append_right _ (List.mem_append_right _ hy))
    · refine LastCell.isBest_of_blank rfl fun y hy => ?_
      have hy' := hafter y (List.mem_reverse.mp hy)
      simpa using hy'

/-- What trimming leaves stands before the blanks at the end. -/
theorem mem_of_mem_trimEnd {x : Char} (hrest : IsBlanks rest)
    (hx : x ∈ trimEnd ((s ++ rest).dropWhile isBlank)) : x ∈ s := by
  obtain ⟨lead, -, hlead⟩ := exists_blanks_trimStart (s ++ rest)
  rw [← trimStart] at hx
  set kept := trimEnd (trimStart (s ++ rest)) with hkept
  obtain ⟨trail, -, htrail⟩ := exists_blanks_trimEnd (trimStart (s ++ rest))
  rw [htrail, ← hkept, ← List.append_assoc] at hlead
  have hmem : x ∈ lead ++ kept := List.mem_append_right _ hx
  rcases List.append_eq_append_iff.mp hlead with ⟨more, hmore, hmoreRest⟩ | ⟨more, hmore, -⟩
  · -- the end of what is kept is no blank, so it does not reach into the rest
    have hstops : Stops isBlank (s ++ more).reverse := by
      have hend : Stops isBlank kept.reverse := stops_reverse_trimEnd _
      rw [← hmore, List.reverse_append]
      exact hend.append (by simpa using List.ne_nil_of_mem hx) _
    have hnil : more = [] := by
      refine eq_nil_of_trimmed hstops fun y hy => hrest y ?_
      rw [hmoreRest]
      exact List.mem_append_left _ hy
    rwa [hmore, hnil, List.append_nil] at hmem
  · rw [hmore]
    exact List.mem_append_left _ hmem

/-- Where the reader finds no last column there is no way to cut one out. -/
theorem lastColumn?_ne_none {c : LastCell} (hc : c.Fits) : lastColumn? c.whole ≠ none := by
  intro h
  unfold lastColumn? at h
  dsimp only at h
  have hgap : c.gap.length ≤ (c.whole.takeWhile isBlank).length :=
    length_run_le hc.gap.2 c.whole_eq.symm
  have hpos : 0 < c.gap.length := List.length_pos_iff.mpr hc.gap.1
  split at h
  · rename_i hnone
    rw [hnone, List.length_nil] at hgap
    omega
  split at h
  · rename_i hne
    split at h
    · rename_i hfeed
      refine hc.text.2 (mem_of_mem_trimEnd hc.rest ?_)
      rwa [LastCell.whole_eq, List.dropWhile_append_of_pos hc.gap.2] at hfeed
    · cases h
  · rename_i hnil
    obtain ⟨hs, -⟩ := isBlanks_of_trimEnd_eq_nil (not_not.mp hnil)
    rw [hs] at h
    have hfeeds := List.find?_eq_none.mp (Option.map_eq_none_iff.mp h)
    obtain ⟨g, more, hsplit⟩ := List.exists_cons_of_ne_nil hc.gap.1
    obtain ⟨x, text, htext⟩ := List.exists_cons_of_ne_nil hc.text.1
    have hx : x = '\n' := by
      have hmem : x ∈ c.whole.tail.reverse := by
        rw [LastCell.whole_eq, hsplit, htext]
        simp
      simpa using hfeeds x hmem
    refine hc.text.2 ?_
    rw [htext, hx]
    exact List.mem_cons_self

/-! ### Lines that are kept -/

/-- The lines that are read and their readings stand in the same order. -/
theorem forall₂_filterMap {α β : Type} {read : α → Option β} {P : α → Prop} [DecidablePred P] {lines : List α}
    (h : ∀ line, P line ↔ ∃ b, read line = some b) :
    List.Forall₂ (fun line b => read line = some b) (lines.filter P) (lines.filterMap read) := by
  induction lines with
  | nil => exact .nil
  | cons line lines ih =>
    cases hread : read line with
    | none =>
      have hnot : ¬ P line := fun hP => by
        obtain ⟨b, hb⟩ := (h line).mp hP
        rw [hread] at hb
        cases hb
      rwa [List.filter_cons_of_neg (by simpa using hnot), List.filterMap_cons_none hread]
    | some b =>
      have hP : P line := (h line).mpr ⟨b, hread⟩
      rw [List.filter_cons_of_pos (by simpa using hP), List.filterMap_cons_some hread]
      exact .cons hread ih

end DriveHealth.Text

/-! ### Numbers in columns -/

namespace DriveHealth.Numeral

/-- ASCII digits, at least one, that denote a number below the bound. -/
def IsBelow (bound : Nat) (digits : List Char) : Prop :=
  digits ≠ [] ∧ (∀ c ∈ digits, c.isDigit = true) ∧ value digits < bound

theorem read?_eq_some {limit n : Nat} {digits : List Char} :
    read? limit digits = some n ↔ IsBelow (limit + 1) digits ∧ n = value digits := by
  have hbelow : IsBelow (limit + 1) digits ↔
      digits ≠ [] ∧ digits.all Char.isDigit = true ∧ value digits ≤ limit := by
    rw [IsBelow, List.all_eq_true, Nat.lt_succ_iff]
  unfold read?
  rw [hbelow]
  split
  · rename_i h
    rw [Option.some.injEq, eq_comm, and_iff_right h]
  · rename_i h
    exact iff_of_false (by simp) fun hn => h hn.1

theorem max32_succ : max32 + 1 = UInt32.size := by decide

theorem max64_succ : max64 + 1 = UInt64.size := by decide

theorem IsBelow.isDecimals {bound : Nat} {digits : List Char} (h : IsBelow bound digits) :
    Text.IsDecimals digits :=
  ⟨h.1, fun c hc => Text.isDecimal_of_isDigit c (h.2.1 c hc)⟩

/-! ### Printed numbers -/

theorem value_toString (n : Nat) : value (toString n).toList = n := by
  rw [value, Nat.toString_eq_repr, Nat.toList_repr]
  simp

theorem isBelow_toString {n bound : Nat} (h : n < bound) : IsBelow bound (toString n).toList := by
  refine ⟨?_, fun c hc => ?_, by rwa [value_toString]⟩
  · rw [Nat.toString_eq_repr, Nat.toList_repr]
    exact Nat.toDigits_ne_nil
  · rw [Nat.toString_eq_repr, Nat.toList_repr] at hc
    exact Nat.isDigit_of_mem_toDigits (by decide) (by decide) hc

end DriveHealth.Numeral
