/-
# The grammar of a self-test row

A line may be cut into the columns of a row in many ways, since the status is free text that may hold
numbers and per cent signs, and may begin or end with blanks. The ways are ordered: the longer gap before
the status comes first, then the shorter status, then the better last cell. The reader takes the first
way of all and only then looks at the numbers; it does not turn to another way when they are out of
range.

Key definitions: `SelfTest.EndingCut`, `SelfTest.Cut`, `SelfTest.Cut.IsCutOf`, `SelfTest.Cut.Beats`,
`SelfTest.Cut.IsBest`, `SelfTest.Cut.InRange`, `SelfTest.IsRow`.
Key theorems: `SelfTest.exists_endingCut`, `SelfTest.exists_shortest`, `SelfTest.exists_cut`,
`SelfTest.read?_ne_none`, `SelfTest.isRow_iff`, `SelfTest.log_reads_best_cuts`.
-/
import DriveHealth.Proofs.Text.Labels
import DriveHealth.SelfTest

namespace DriveHealth.SelfTest

open Text Numeral

/-! ### After the status -/

/-- The columns after the status, with the gaps between them. -/
structure EndingCut where
  gap : List Char
  remaining : List Char
  hoursGap : List Char
  hours : List Char
  /-- The first error, with the gap before it and the blanks after it. -/
  last : LastCell

namespace EndingCut

/-- The text that is cut. -/
def text (e : EndingCut) : List Char :=
  e.gap ++ (e.remaining ++ '%' :: (e.hoursGap ++ (e.hours ++ e.last.whole)))

structure Fits (e : EndingCut) : Prop where
  gap : IsGap e.gap
  remaining : IsDecimals e.remaining
  hoursGap : IsGap e.hoursGap
  hours : IsDecimals e.hours
  last : e.last.Fits

/-- The columns as the reader keeps them. -/
def columns (e : EndingCut) : Ending where
  remaining := e.remaining
  hours := e.hours
  firstError := e.last.text

variable {e d : EndingCut} {s : List Char}

theorem not_isDecimal_percent : isDecimal '%' = false := by decide +kernel

theorem stops_percent (s : List Char) : Stops isDecimal ('%' :: s) := stops_cons.mpr not_isDecimal_percent

theorem Fits.stops_whole (h : e.Fits) : Stops isDecimal e.last.whole := by
  rw [LastCell.whole_eq]
  exact h.last.gap.stops isBlank_not_decimal _

/-- Two ways to cut a text differ in the last cell only. -/
theorem eq_of_text_eq (he : e.Fits) (hd : d.Fits) (h : e.text = d.text) :
    d = { e with last := d.last } ∧ d.last.whole = e.last.whole := by
  unfold text at h
  obtain ⟨hgap, h⟩ := run_cancel he.gap.2 (he.remaining.isWord.stops _) hd.gap.2 (hd.remaining.isWord.stops _) h
  obtain ⟨hremaining, h⟩ := run_cancel he.remaining.2 (stops_percent _) hd.remaining.2 (stops_percent _) h
  obtain ⟨-, h⟩ := List.cons.inj h
  obtain ⟨hhoursGap, h⟩ := run_cancel he.hoursGap.2 (he.hours.isWord.stops _) hd.hoursGap.2
    (hd.hours.isWord.stops _) h
  obtain ⟨hhours, hlast⟩ := run_cancel he.hours.2 he.stops_whole hd.hours.2 hd.stops_whole h
  refine ⟨?_, hlast.symm⟩
  obtain ⟨gap, remaining, hoursGap, hours, last⟩ := d
  rw [EndingCut.mk.injEq]
  exact ⟨hgap.symm, hremaining.symm, hhoursGap.symm, hhours.symm, rfl⟩

end EndingCut

variable {e : EndingCut} {s : List Char} {ending : Ending}

theorem endingRead?_text (he : e.Fits) : Ending.read? e.text =
    (lastColumn? e.last.whole).map fun text => { e.columns with firstError := text } := by
  have hgap : afterGap? e.text = some (e.remaining ++ '%' :: (e.hoursGap ++ (e.hours ++ e.last.whole))) :=
    afterGap?_append he.gap (he.remaining.isWord.stops _)
  have hhoursGap : afterGap? (e.hoursGap ++ (e.hours ++ e.last.whole)) = some (e.hours ++ e.last.whole) :=
    afterGap?_append he.hoursGap (he.hours.isWord.stops _)
  have hpercent (s : List Char) : ['%'].isPrefixOf? ('%' :: s) = some s :=
    List.isPrefixOf?_eq_some_iff_append_eq.mpr rfl
  simp only [Ending.read?, Option.bind_eq_bind, hgap, Option.bind_some]
  rw [digitRun?_append he.remaining (EndingCut.stops_percent _)]
  simp only [Option.bind_some, hpercent, hhoursGap]
  rw [digitRun?_append he.hours he.stops_whole]
  cases htext : lastColumn? e.last.whole with
  | none => simp only [Option.bind_some, htext, Option.bind_none, Option.map_none]
  | some text => simp only [Option.bind_some, htext, Option.map_some, EndingCut.columns]

/-- The columns that are read come from a way to cut the text, of which the last cell is the best. -/
theorem exists_endingCut (h : Ending.read? s = some ending) :
    ∃ e : EndingCut, e.Fits ∧ e.text = s ∧ e.columns = ending ∧ e.last.IsBest := by
  simp only [Ending.read?, Option.bind_eq_bind, Option.bind_eq_some_iff, Prod.exists] at h
  obtain ⟨remaining, s₂, ⟨s₁, hgap, hremaining⟩, s₃, hpercent, hours, s₅, ⟨s₄, hhoursGap, hhours⟩, text, htext,
    hcolumns⟩ := h
  cases hcolumns
  obtain ⟨-, gap, hisGap, rfl⟩ := afterGap?_eq_some hgap
  obtain ⟨hremainingDecimals, -, rfl⟩ := digitRun?_eq_some hremaining
  obtain rfl := List.isPrefixOf?_eq_some_iff_append_eq.mp hpercent
  obtain ⟨-, hoursGap, hisHoursGap, rfl⟩ := afterGap?_eq_some hhoursGap
  obtain ⟨hhoursDecimals, -, rfl⟩ := digitRun?_eq_some hhours
  obtain ⟨last, hlast, rfl, rfl, hbest⟩ := exists_lastCell htext
  exact ⟨⟨gap, remaining, hoursGap, hours, last⟩,
    ⟨hisGap, hremainingDecimals, hisHoursGap, hhoursDecimals, hlast⟩, rfl, rfl, hbest⟩

/-- The reader refuses no text that can be cut. -/
theorem endingRead?_ne_none (he : e.Fits) : Ending.read? e.text ≠ none := by
  rw [endingRead?_text he, ne_eq, Option.map_eq_none_iff]
  exact lastColumn?_ne_none he.last

/-! ### The status -/

variable {status : List Char}

/-- The status that is read is the shortest that columns follow. -/
theorem exists_shortest (h : shortestStatus? s = some (status, ending)) :
    IsFreeText status ∧ ∃ e : EndingCut, e.Fits ∧ status ++ e.text = s ∧ e.columns = ending ∧ e.last.IsBest ∧
      ∀ other (d : EndingCut), IsFreeText other → d.Fits → other ++ d.text = s →
        status.length ≤ other.length := by
  -- along the text: a status of one character, or else one character before the shortest of the rest
  induction s using shortestStatus?.induct generalizing status with
  | case1 =>
    unfold shortestStatus? at h
    cases h
  | case2 s =>
    unfold shortestStatus? at h
    rw [if_pos rfl] at h
    cases h
  | case3 c s hc ending' hread =>
    unfold shortestStatus? at h
    rw [if_neg hc, hread] at h
    cases h
    obtain ⟨e, he, htext, hcolumns, hbest⟩ := exists_endingCut hread
    refine ⟨⟨List.cons_ne_nil _ _, by simpa using Ne.symm hc⟩, e, he, ?_, hcolumns, hbest, ?_⟩
    · rw [htext]
      rfl
    · intro other d hother _ _
      exact List.length_pos_iff.mpr hother.1
  | case4 c s hc hread ih =>
    unfold shortestStatus? at h
    rw [if_neg hc, hread] at h
    obtain ⟨⟨later, ending'⟩, hlater, hpair⟩ := Option.map_eq_some_iff.mp h
    cases hpair
    obtain ⟨hfree, e, he, htext, hcolumns, hbest, hshort⟩ := ih hlater
    refine ⟨⟨List.cons_ne_nil _ _, ?_⟩, e, he, ?_, hcolumns, hbest, ?_⟩
    · intro hfeed
      rcases List.mem_cons.mp hfeed with rfl | hfeed
      · exact hc rfl
      · exact hfree.2 hfeed
    · rw [List.cons_append, htext]
    · intro other d hother hd hsplit
      obtain ⟨first, more, rfl⟩ := List.exists_cons_of_ne_nil hother.1
      obtain ⟨-, hrest⟩ := List.cons.inj hsplit
      -- a status of the first character alone would have been read
      have hmore : more ≠ [] := by
        rintro rfl
        have htextAll : d.text = s := hrest
        refine endingRead?_ne_none hd ?_
        rw [htextAll, hread]
      have hle := hshort more d ⟨hmore, fun hfeed => hother.2 (List.mem_cons_of_mem _ hfeed)⟩ hd hrest
      exact Nat.succ_le_succ hle

theorem shortestStatus?_ne_none (hstatus : IsFreeText status) (he : e.Fits) :
    shortestStatus? (status ++ e.text) ≠ none := by
  obtain ⟨hne, hfeed⟩ := hstatus
  induction status with
  | nil => exact absurd rfl hne
  | cons c later ih =>
    have hc : c ≠ '\n' := fun h => hfeed (h ▸ List.mem_cons_self)
    rw [List.cons_append, shortestStatus?, if_neg hc]
    cases hread : Ending.read? (later ++ e.text) with
    | some ending => simp
    | none =>
      have hlater : later ≠ [] := by
        rintro rfl
        exact endingRead?_ne_none he hread
      have hnot := ih hlater fun h => hfeed (List.mem_cons_of_mem _ h)
      simpa using hnot

/-! ### The kind -/

variable {k j : Kind} {rest rest' : List Char}

theorem mem_all (k : Kind) : k ∈ Kind.all := by cases k <;> decide

theorem labels_incomparable : Incomparable (fun k : Kind => k.label.toList) Kind.all := by
  unfold Incomparable
  decide +kernel

theorem stops_label (k : Kind) (s : List Char) : Stops isBlank (k.label.toList ++ s) := by
  have hall : ∀ k ∈ Kind.all, (k.label.toList.head?.any fun c => !isBlank c) = true := by decide +kernel
  exact stops_append_of_head (hall k (mem_all k)) s

/-- A text begins with one label only. -/
theorem label_cancel (h : k.label.toList ++ rest = j.label.toList ++ rest') : k = j ∧ rest = rest' :=
  labels_incomparable.cancel (mem_all k) (mem_all j) h

theorem kindPrefix?_eq_some : kindPrefix? s = some (k, rest) ↔ k.label.toList ++ rest = s :=
  labels_incomparable.findSome?_eq_some.trans (and_iff_right (mem_all k))

/-! ### Ways to cut a line -/

/-- A line cut into the columns of a row. -/
structure Cut where
  /-- The blanks after the number sign. -/
  signGap : List Char
  number : Cell
  kind : Kind
  kindGap : List Char
  status : List Char
  ending : EndingCut

namespace Cut

/-- The line that is cut. -/
def text (c : Cut) : List Char :=
  '#' :: (c.signGap ++ (c.number.text ++ (c.kind.label.toList ++ (c.kindGap ++ (c.status ++ c.ending.text)))))

/-- The columns are those of a row, whose numbers may have the digits of any script. -/
structure Fits (c : Cut) : Prop where
  signGap : IsBlanks c.signGap
  number : c.number.Holds IsDecimals
  kindGap : IsGap c.kindGap
  status : IsFreeText c.status
  ending : c.ending.Fits

def IsCutOf (line : String) (c : Cut) : Prop := c.Fits ∧ c.text = line.toList

/-- The gap before the status is longer, or else the status is shorter, or else the last cell is better. -/
def Beats (c d : Cut) : Prop :=
  d.kindGap.length < c.kindGap.length ∨ d.kindGap.length = c.kindGap.length ∧
    (c.status.length < d.status.length ∨ c.status.length = d.status.length ∧ c.ending.last.Beats d.ending.last)

/-- The cut beats all others that its line can be cut into. -/
def IsBest (c : Cut) : Prop := ∀ d : Cut, d.Fits → d.text = c.text → d = c ∨ c.Beats d

/-- The numbers have ASCII digits and fit: the test's in 32 bits, the per cent up to 100, the hours in 64
bits. -/
def InRange (c : Cut) : Prop :=
  Numeral.IsBelow UInt32.size c.number.word ∧ Numeral.IsBelow 101 c.ending.remaining ∧
    Numeral.IsBelow UInt64.size c.ending.hours

/-- What stands in the columns. -/
def selfTest (c : Cut) : SelfTest where
  number := Numeral.value c.number.word
  kind := c.kind
  status := String.ofList c.status
  remaining := Numeral.value c.ending.remaining
  hours := Numeral.value c.ending.hours
  firstError := String.ofList c.ending.last.text

/-- The columns as the reader keeps them. -/
def columns (c : Cut) : Columns where
  number := c.number.word
  kind := c.kind
  status := c.status
  ending := c.ending.columns

variable {c d : Cut}

theorem Fits.isWord_number (hc : c.Fits) : c.number.Holds IsWord := hc.number.mono fun _ hw => hw.isWord

/-- Two ways to cut a line agree up to the gap before the status. -/
theorem eq_of_text_eq (hc : c.Fits) (hd : d.Fits) (h : c.text = d.text) :
    c.signGap = d.signGap ∧ c.number = d.number ∧ c.kind = d.kind ∧
      c.kindGap ++ (c.status ++ c.ending.text) = d.kindGap ++ (d.status ++ d.ending.text) := by
  unfold text at h
  obtain ⟨-, h⟩ := List.cons.inj h
  obtain ⟨hsignGap, h⟩ := run_cancel hc.signGap (hc.isWord_number.stops _) hd.signGap (hd.isWord_number.stops _) h
  obtain ⟨hnumber, h⟩ := Cell.cancel hc.isWord_number (stops_label _ _) hd.isWord_number (stops_label _ _) h
  obtain ⟨hkind, h⟩ := label_cancel h
  exact ⟨hsignGap, hnumber, hkind, h⟩

/-- A cut is best if no other leaves a longer gap before the status, and none with this gap a shorter
status. -/
theorem isBest_of_minimal (hc : c.Fits)
    (hgap : ∀ d : Cut, d.Fits → d.text = c.text → d.kindGap.length ≤ c.kindGap.length)
    (hstatus : ∀ d : Cut, d.Fits → d.status ++ d.ending.text = c.status ++ c.ending.text →
      c.status.length ≤ d.status.length)
    (hlast : c.ending.last.IsBest) : c.IsBest := by
  intro d hd htext
  obtain ⟨hsignGap, hnumber, hkind, htail⟩ := eq_of_text_eq hd hc htext
  rcases Nat.lt_or_eq_of_le (hgap d hd htext) with hlt | hgapLength
  · exact .inr (.inl hlt)
  obtain ⟨hkindGap, htail⟩ := List.append_inj htail hgapLength
  rcases Nat.lt_or_eq_of_le (hstatus d hd htail) with hlt | hstatusLength
  · exact .inr (.inr ⟨hgapLength, .inl hlt⟩)
  obtain ⟨hstatusEq, hending⟩ := List.append_inj htail hstatusLength.symm
  obtain ⟨hcells, hwhole⟩ := EndingCut.eq_of_text_eq hc.ending hd.ending hending.symm
  rcases hlast d.ending.last hd.ending.last hwhole with heq | hbeats
  · left
    obtain ⟨signGap, number, kind, kindGap, status, ending⟩ := d
    rw [heq] at hcells
    rw [Cut.mk.injEq]
    exact ⟨hsignGap, hnumber, hkind, hkindGap, hstatusEq, hcells⟩
  · exact .inr (.inr ⟨hgapLength, .inr ⟨hstatusLength, hbeats⟩⟩)

theorem Beats.asymm (h : c.Beats d) : ¬ d.Beats c := by
  unfold Beats LastCell.Beats at *
  omega

/-- A line has one best cut. -/
theorem IsBest.eq {line : String} (hc : c.IsCutOf line) (hbest : c.IsBest) (hd : d.IsCutOf line)
    (hdbest : d.IsBest) : d = c := by
  rcases hbest d hd.1 (hd.2.trans hc.2.symm) with heq | hbeats
  · exact heq
  · rcases hdbest c hc.1 (hc.2.trans hd.2.symm) with heq | hbeats'
    · exact heq.symm
    · exact absurd hbeats' hbeats.asymm

end Cut

/-! ### Reading the columns -/

variable {c : Cut} {line : List Char} {columns : Columns}

/-- A search downwards finds the greatest. -/
theorem exists_greatest {β : Type} {f : Nat → Option β} {bound : Nat} {b : β}
    (h : (List.range bound).reverse.findSome? f = some b) :
    ∃ n < bound, f n = some b ∧ ∀ m < bound, f m ≠ none → m ≤ n := by
  induction bound with
  | zero => cases h
  | succ bound ih =>
    rw [List.range_succ, List.reverse_append, List.reverse_singleton, List.singleton_append,
      List.findSome?_cons] at h
    cases hf : f bound with
    | some b' =>
      rw [hf] at h
      cases h
      exact ⟨bound, Nat.lt_succ_self bound, hf, fun m hm _ => Nat.le_of_lt_succ hm⟩
    | none =>
      rw [hf] at h
      obtain ⟨n, hn, hfn, hgreatest⟩ := ih h
      refine ⟨n, Nat.lt_succ_of_lt hn, hfn, fun m hm hfm => ?_⟩
      rcases Nat.lt_succ_iff_lt_or_eq.mp hm with hlt | rfl
      · exact hgreatest m hlt hfm
      · exact absurd hf hfm

/-- The blanks at the start hold a gap of each length up to their own. -/
theorem exists_kindGap {n : Nat} (hn : n < (s.takeWhile isBlank).length) :
    ∃ gap, IsGap gap ∧ gap.length = n + 1 ∧ gap ++ s.drop (n + 1) = s := by
  have htake : (s.takeWhile isBlank).take (n + 1) = s.take (n + 1) := by
    rw [← List.take_append_of_le_length (Nat.succ_le_of_lt hn), List.takeWhile_append_dropWhile]
  have hlength : (s.take (n + 1)).length = n + 1 := by
    rw [← htake, List.length_take, Nat.min_eq_left (Nat.succ_le_of_lt hn)]
  refine ⟨s.take (n + 1), ⟨List.ne_nil_of_length_eq_add_one hlength, fun c hc => ?_⟩, hlength,
    List.take_append_drop (n + 1) s⟩
  rw [← htake] at hc
  exact List.mem_takeWhile_imp (List.mem_of_mem_take hc)

/-- A gap and what may follow it are among those that are tried. -/
theorem exists_tried {gap : List Char} (hgap : IsGap gap) (hs : gap ++ rest = s) :
    ∃ n < (s.takeWhile isBlank).length, gap.length = n + 1 ∧ s.drop (n + 1) = rest := by
  have hpos : 0 < gap.length := List.length_pos_iff.mpr hgap.1
  have hle : gap.length ≤ (s.takeWhile isBlank).length := length_run_le hgap.2 hs
  refine ⟨gap.length - 1, by omega, by omega, ?_⟩
  rw [Nat.sub_add_cancel hpos, ← hs, List.drop_left]

/-- The columns that are read come from the best way to cut the line. -/
theorem exists_cut (h : Columns.read? line = some columns) :
    ∃ c : Cut, c.Fits ∧ c.text = line ∧ c.columns = columns ∧ c.IsBest := by
  simp only [Columns.read?, Option.bind_eq_bind, Option.bind_eq_some_iff, Prod.exists] at h
  obtain ⟨s₁, hsign, number, s₂, hnumber, kind, s₄, ⟨s₃, hgap, hkind⟩, status, ending, hfind, hcolumns⟩ := h
  cases hcolumns
  obtain rfl := List.isPrefixOf?_eq_some_iff_append_eq.mp hsign
  obtain ⟨signGap, hsignGap, hs₁⟩ := exists_blanks_trimStart s₁
  obtain ⟨hdecimals, -, hs₂⟩ := digitRun?_eq_some hnumber
  obtain ⟨-, numberGap, hnumberGap, rfl⟩ := afterGap?_eq_some hgap
  obtain rfl := kindPrefix?_eq_some.mp hkind
  obtain ⟨n, hn, hshortest, hgreatest⟩ := exists_greatest hfind
  obtain ⟨kindGap, hkindGap, hlength, hs₄⟩ := exists_kindGap hn
  obtain ⟨hstatus, e, he, hrest, rfl, hlast, hminimal⟩ := exists_shortest hshortest
  have hfits : (⟨signGap, ⟨number, numberGap⟩, kind, kindGap, status, e⟩ : Cut).Fits :=
    ⟨hsignGap, ⟨hdecimals, hnumberGap⟩, hkindGap, hstatus, he⟩
  refine ⟨_, hfits, ?_, rfl, Cut.isBest_of_minimal hfits (fun d hd htext => ?_) (fun d hd hsplit => ?_) hlast⟩
  · rw [Cut.text, Cell.text, hs₁, hs₂]
    dsimp only
    rw [hrest, hs₄, List.append_assoc]
    rfl
  · -- the gap of another cut was tried too, and it leaves a status
    obtain ⟨-, -, -, htail⟩ := Cut.eq_of_text_eq hd hfits htext
    dsimp only at htail ⊢
    rw [hrest, hs₄] at htail
    obtain ⟨m, hm, hmLength, hdrop⟩ := exists_tried hd.kindGap htail
    have hle : m ≤ n := by
      refine hgreatest m hm ?_
      rw [hdrop]
      exact shortestStatus?_ne_none hd.status hd.ending
    omega
  · exact hminimal d.status d.ending hd.status hd.ending (hsplit.trans hrest)

/-- The reader refuses no line that can be cut. -/
theorem read?_ne_none (hc : c.Fits) : Columns.read? c.text ≠ none := by
  have hsign (s : List Char) : ['#'].isPrefixOf? ('#' :: s) = some s :=
    List.isPrefixOf?_eq_some_iff_append_eq.mpr rfl
  have hnumber (s : List Char) : digitRun? (c.number.text ++ s) = some (c.number.word, c.number.gap ++ s) := by
    rw [Cell.text, List.append_assoc]
    exact digitRun?_append hc.number.1 (hc.number.2.stops isBlank_not_decimal s)
  have hkind (s : List Char) : kindPrefix? (c.kind.label.toList ++ s) = some (c.kind, s) :=
    kindPrefix?_eq_some.mpr rfl
  have htail : c.kindGap ++ (c.status ++ c.ending.text) = _ := rfl
  obtain ⟨n, hn, -, hdrop⟩ := exists_tried hc.kindGap htail
  intro h
  rw [Cut.text] at h
  simp only [Columns.read?, Option.bind_eq_bind, hsign, Option.bind_some,
    trimStart_run hc.signGap (hc.isWord_number.stops _), hnumber, afterGap?_append hc.number.2 (stops_label _ _),
    hkind, Option.bind_eq_none_iff, reduceCtorEq, imp_false] at h
  have hnone := List.findSome?_eq_none_iff.mp (Option.eq_none_iff_forall_ne_some.mpr h) n
    (List.mem_reverse.mpr (List.mem_range.mpr hn))
  rw [hdrop] at hnone
  exact shortestStatus?_ne_none hc.status hc.ending hnone

/-! ### Rows -/

theorem ofColumns?_eq_some {t : SelfTest} : ofColumns? c.columns = some t ↔ c.InRange ∧ t = c.selfTest := by
  simp only [ofColumns?, Option.bind_eq_bind, Option.bind_eq_some_iff, read?_eq_some, max32_succ, max64_succ]
  constructor
  · rintro ⟨_, ⟨hremaining, rfl⟩, _, ⟨hnumber, rfl⟩, _, ⟨hhours, rfl⟩, ht⟩
    cases ht
    exact ⟨⟨hnumber, hremaining, hhours⟩, rfl⟩
  · rintro ⟨⟨hnumber, hremaining, hhours⟩, rfl⟩
    exact ⟨_, ⟨hremaining, rfl⟩, _, ⟨hnumber, rfl⟩, _, ⟨hhours, rfl⟩, rfl⟩

theorem ofLine?_of_not_cut {line : String} (h : ∀ c : Cut, ¬ c.IsCutOf line) : ofLine? line = none := by
  cases hread : Columns.read? line.toList with
  | none => rw [ofLine?, hread, Option.bind_eq_bind, Option.bind_none]
  | some columns =>
    obtain ⟨c, hc, htext, -⟩ := exists_cut hread
    exact absurd ⟨hc, htext⟩ (h c)

/-- The best way to cut a line is what the reader goes on with. -/
theorem exists_best {line : String} (hc : c.IsCutOf line) :
    ∃ d : Cut, d.IsCutOf line ∧ d.IsBest ∧ ofLine? line = ofColumns? d.columns := by
  have hread : Columns.read? line.toList ≠ none := hc.2 ▸ read?_ne_none hc.1
  obtain ⟨columns, hcolumns⟩ := Option.ne_none_iff_exists'.mp hread
  obtain ⟨d, hd, htext, rfl, hbest⟩ := exists_cut hcolumns
  refine ⟨d, ⟨hd, htext⟩, hbest, ?_⟩
  rw [ofLine?, hcolumns, Option.bind_eq_bind, Option.bind_some]

/-- The best way to cut the line leaves numbers in range. -/
def IsRow (line : String) : Prop := ∃ c : Cut, c.IsCutOf line ∧ c.IsBest ∧ c.InRange

theorem isRow_iff {line : String} : IsRow line ↔ ∃ t, ofLine? line = some t := by
  constructor
  · rintro ⟨c, hc, hbest, hrange⟩
    obtain ⟨d, hd, hdbest, hline⟩ := exists_best hc
    obtain rfl := Cut.IsBest.eq hc hbest hd hdbest
    exact ⟨_, hline.trans (ofColumns?_eq_some.mpr ⟨hrange, rfl⟩)⟩
  · rintro ⟨t, ht⟩
    obtain ⟨columns, hread, ht⟩ := Option.bind_eq_some_iff.mp ht
    obtain ⟨c, hc, htext, rfl, hbest⟩ := exists_cut hread
    exact ⟨c, ⟨hc, htext⟩, hbest, (ofColumns?_eq_some.mp ht).1⟩

instance (line : String) : Decidable (IsRow line) :=
  decidable_of_iff (ofLine? line).isSome (Option.isSome_iff_exists.trans isRow_iff.symm)

theorem remaining_le {line : String} {t : SelfTest} (h : ofLine? line = some t) : t.remaining ≤ 100 := by
  obtain ⟨columns, hread, ht⟩ := Option.bind_eq_some_iff.mp h
  obtain ⟨c, -, -, rfl, -⟩ := exists_cut hread
  obtain ⟨⟨-, hremaining, -⟩, rfl⟩ := ofColumns?_eq_some.mp ht
  exact Nat.le_of_lt_succ hremaining.2.2

/-- **A line is read by its best cut.** A line that cannot be cut into columns is no row. Of the ways to cut
any other, the best decides alone: the line holds the self-test of its columns if their numbers are in
range, and is no row if they are not. So no self-test of a log has more than 100 per cent left, and the log
has the self-tests of all rows in their order, and no others. -/
theorem log_reads_best_cuts :
    (∀ line, (∀ c : Cut, ¬ c.IsCutOf line) → ofLine? line = none) ∧
    (∀ line, (∃ c : Cut, c.IsCutOf line) → ∃ c : Cut, c.IsCutOf line ∧ c.IsBest ∧
      (c.InRange → ofLine? line = some c.selfTest) ∧ (¬ c.InRange → ofLine? line = none)) ∧
    (∀ lines, (∀ t ∈ log lines, t.remaining ≤ 100) ∧
      List.Forall₂ (fun line t => ofLine? line = some t) (lines.filter IsRow) (log lines)) := by
  refine ⟨fun line h => ofLine?_of_not_cut h, fun line ⟨c, hc⟩ => ?_, fun lines => ⟨fun t ht => ?_, ?_⟩⟩
  · obtain ⟨d, hd, hbest, hline⟩ := exists_best hc
    refine ⟨d, hd, hbest, fun hrange => ?_, fun hnot => ?_⟩
    · exact hline.trans (ofColumns?_eq_some.mpr ⟨hrange, rfl⟩)
    · rw [hline, Option.eq_none_iff_forall_ne_some]
      intro t ht
      exact hnot (ofColumns?_eq_some.mp ht).1
  · obtain ⟨line, -, hline⟩ := List.mem_filterMap.mp ht
    exact remaining_le hline
  · exact forall₂_filterMap fun line => isRow_iff

/-- The first per cent is out of range, and that the second one is not does not help. -/
example : ofLine? "# 1  Short offline  a 150% 1 x 50% 2 y" = none := by decide +kernel

end DriveHealth.SelfTest
