/-
# The power mode

A drive that is asleep answers with the message `Device is in MODE mode, exit(N)` in place of a report. The message
may stand anywhere in a line, and its letters may be small or capital. Where it starts the rest is settled: the mode
is a word, since the text after it starts with a space, and the number ends at the bracket. Of several messages in a
line the leftmost is read. Only the last line that is not blank is looked at, and only when the information has no
entry for the mode.

Key definitions: `Power.Message`, `Power.Message.IsFirstIn`, `Power.IsLastLine`, `Power.HasMode`.
Key theorems: `Power.modeHere?_eq_some`, `Power.standbyMode?_eq_none`, `Power.exists_isFirstIn`,
`Power.mode_iff_hasMode`.
-/
import DriveHealth.Power
import DriveHealth.Proofs.Text.Lower

namespace DriveHealth.Power

open Text

/-! ### Messages -/

/-- A line cut at a message about a sleeping drive. -/
structure Message where
  before : List Char
  opening : List Char
  mode : List Char
  middle : List Char
  number : List Char
  after : List Char

namespace Message

/-- The message and what follows it. -/
def tail (m : Message) : List Char := m.opening ++ (m.mode ++ (m.middle ++ (m.number ++ ')' :: m.after)))

/-- The line that is cut. -/
def text (m : Message) : List Char := m.before ++ m.tail

/-- The parts are those of the message, the mode a word and the number of digits of any script. -/
structure Fits (m : Message) : Prop where
  opening : IsForm "Device is in ".toList m.opening
  mode : IsWord m.mode
  middle : IsForm " mode, exit(".toList m.middle
  number : IsDecimals m.number

/-- The message stands in the text. -/
def StandsIn (m : Message) (s : List Char) : Prop := m.Fits ∧ m.text = s

/-- No message starts further to the left in the text. -/
def IsFirstIn (m : Message) (s : List Char) : Prop :=
  m.StandsIn s ∧ ∀ n : Message, n.StandsIn s → m.before.length ≤ n.before.length

/-- The message in a text with one more character before it. -/
def shift (c : Char) (m : Message) : Message := { m with before := c :: m.before }

end Message

/-- The last of the lines that is not blank. -/
def IsLastLine (lines : List String) (line : String) : Prop :=
  ∃ before after, lines = before ++ line :: after ∧ ¬ IsBlanks line.toList ∧ ∀ l ∈ after, IsBlanks l.toList

/-- What is to be said of the mode: the entry of the information, else the mode of the first message in the last
line, else that it is unknown. -/
inductive HasMode (info : Information) (lines : List String) : String → Prop
  | entered {value : String} (h : info.get? "powermodeis" = some value) : HasMode info lines value
  | announced {line : String} {m : Message} (hentry : info.get? "powermodeis" = none)
      (hline : IsLastLine lines line) (hfirst : m.IsFirstIn line.toList) :
      HasMode info lines (String.ofList m.mode)
  | unknown (hentry : info.get? "powermodeis" = none)
      (hsilent : ∀ line, IsLastLine lines line → ∀ m : Message, ¬ m.StandsIn line.toList) :
      HasMode info lines "UNKNOWN"

variable {info : Information} {lines : List String} {line value : String} {m n : Message} {s word rest : List Char}
  {c : Char}

/-! ### A message at the start -/

theorem ascii_opening : ("Device is in ".toList.all fun p => p.toNat < 128) = true := by decide

theorem ascii_middle : (" mode, exit(".toList.all fun p => p.toNat < 128) = true := by decide

/-- The text after the mode starts with a space, where the mode ends. -/
theorem stops_middle (h : IsForm " mode, exit(".toList s) (rest : List Char) :
    Stops (fun c => !isBlank c) (s ++ rest) := by
  obtain ⟨c, s, hc, -, rfl⟩ := List.forall₂_cons_left_iff.mp h
  have hblank : (forms ' ').all isBlank = true := by decide
  rw [List.cons_append, stops_cons, List.all_eq_true.mp hblank c hc]
  rfl

/-- The mode of a message at the start of the text is read. -/
theorem modeHere?_tail (h : m.Fits) : modeHere? m.tail = some m.mode := by
  have hopening : foldPrefix? "Device is in ".toList m.tail =
      some (m.mode ++ (m.middle ++ (m.number ++ ')' :: m.after))) :=
    (foldPrefix?_eq_some ascii_opening).mpr ⟨m.opening, h.opening, rfl⟩
  have hstops := stops_middle h.middle (m.number ++ ')' :: m.after)
  have hmiddle : foldPrefix? " mode, exit(".toList (m.middle ++ (m.number ++ ')' :: m.after)) =
      some (m.number ++ ')' :: m.after) :=
    (foldPrefix?_eq_some ascii_middle).mpr ⟨m.middle, h.middle, rfl⟩
  have hnumber : Numeral.digitRun? (m.number ++ ')' :: m.after) = some (m.number, ')' :: m.after) :=
    digitRun?_append h.number (stops_cons.mpr (by decide +kernel))
  unfold modeHere?
  simp only [hopening, Option.bind_eq_bind, Option.bind_some, takeWhile_run h.mode.all_not_isBlank hstops,
    dropWhile_run h.mode.all_not_isBlank hstops, hmiddle, hnumber, List.head?_cons]
  exact if_pos ⟨h.mode.1, trivial⟩

/-- A mode is read just when a message starts the text. -/
theorem modeHere?_eq_some :
    modeHere? s = some word ↔ ∃ m : Message, m.StandsIn s ∧ m.before = [] ∧ m.mode = word := by
  constructor
  · intro h
    simp only [modeHere?, Option.bind_eq_bind, Option.bind_eq_some_iff, Prod.exists] at h
    obtain ⟨afterOpening, hopening, afterMiddle, hmiddle, number, afterNumber, hnumber, hif⟩ := h
    obtain ⟨opening, hisOpening, rfl⟩ := (foldPrefix?_eq_some ascii_opening).mp hopening
    obtain ⟨middle, hisMiddle, hsplit⟩ := (foldPrefix?_eq_some ascii_middle).mp hmiddle
    obtain ⟨hdecimals, -, rfl⟩ := digitRun?_eq_some hnumber
    split at hif
    · rename_i hword
      cases hif
      obtain ⟨after, rfl⟩ := List.head?_eq_some_iff.mp hword.2
      refine ⟨⟨[], opening, _, middle, number, after⟩,
        ⟨⟨hisOpening, ⟨hword.1, ?_⟩, hisMiddle, hdecimals⟩, ?_⟩, rfl, rfl⟩
      · intro c hc
        simpa using List.mem_takeWhile_imp hc
      · simp only [Message.text, Message.tail, List.nil_append, hsplit, List.takeWhile_append_dropWhile]
    · cases hif
  · rintro ⟨m, ⟨hfits, rfl⟩, hbefore, rfl⟩
    rw [Message.text, hbefore, List.nil_append]
    exact modeHere?_tail hfits

/-! ### The leftmost message -/

namespace Message

theorem StandsIn.shift (h : m.StandsIn s) (c : Char) : (m.shift c).StandsIn (c :: s) :=
  ⟨⟨h.1.opening, h.1.mode, h.1.middle, h.1.number⟩, congrArg (c :: ·) h.2⟩

/-- A message in a text starts the text or stands in the rest of it. -/
theorem StandsIn.cases (h : m.StandsIn (c :: s)) :
    m.before = [] ∨ ∃ n : Message, m = n.shift c ∧ n.StandsIn s := by
  obtain ⟨before, opening, mode, middle, number, after⟩ := m
  obtain ⟨hfits, htext⟩ := h
  cases before with
  | nil => exact .inl rfl
  | cons d before =>
    right
    obtain ⟨rfl, hrest⟩ := List.cons.inj htext
    exact ⟨⟨before, opening, mode, middle, number, after⟩, rfl,
      ⟨hfits.opening, hfits.mode, hfits.middle, hfits.number⟩, hrest⟩

theorem not_standsIn_nil (m : Message) : ¬ m.StandsIn [] := by
  rintro ⟨-, htext⟩
  simp [text, tail] at htext

/-- The mode of the first message in a text is settled. -/
theorem IsFirstIn.mode_eq (hm : m.IsFirstIn s) (hn : n.IsFirstIn s) : m.mode = n.mode := by
  have hlength : m.before.length = n.before.length := Nat.le_antisymm (hm.2 n hn.1) (hn.2 m hm.1)
  have htext : m.before ++ m.tail = n.before ++ n.tail := hm.1.2.trans hn.1.2.symm
  obtain ⟨-, htail⟩ := List.append_inj htext hlength
  have hread := modeHere?_tail hm.1.1
  rw [htail, modeHere?_tail hn.1.1] at hread
  exact (Option.some.inj hread).symm

end Message

/-- No mode is found where no message stands. -/
theorem standbyMode?_eq_none : standbyMode? s = none ↔ ∀ m : Message, ¬ m.StandsIn s := by
  induction s with
  | nil => simp [standbyMode?, Message.not_standsIn_nil]
  | cons c s ih =>
    unfold standbyMode?
    rw [Option.or_eq_none_iff, ih]
    constructor
    · rintro ⟨hhere, hlater⟩ m hm
      rcases hm.cases with hbefore | ⟨n, -, hn⟩
      · rw [modeHere?_eq_some.mpr ⟨m, hm, hbefore, rfl⟩] at hhere
        cases hhere
      · exact hlater n hn
    · intro h
      constructor
      · by_contra hhere
        obtain ⟨word, hword⟩ := Option.ne_none_iff_exists'.mp hhere
        obtain ⟨m, hm, -⟩ := modeHere?_eq_some.mp hword
        exact h m hm
      · intro m hm
        exact h _ (hm.shift c)

/-- The mode of the leftmost message is found. -/
theorem exists_isFirstIn (h : standbyMode? s = some word) : ∃ m : Message, m.IsFirstIn s ∧ m.mode = word := by
  induction s with
  | nil => cases h
  | cons c s ih =>
    unfold standbyMode? at h
    rcases Option.or_eq_some_iff.mp h with hhere | ⟨hhere, hlater⟩
    · obtain ⟨m, hm, hbefore, hmode⟩ := modeHere?_eq_some.mp hhere
      refine ⟨m, ⟨hm, fun n _ => ?_⟩, hmode⟩
      rw [hbefore]
      exact Nat.zero_le _
    · obtain ⟨m, ⟨hm, hfirst⟩, hmode⟩ := ih hlater
      refine ⟨m.shift c, ⟨hm.shift c, fun n hn => ?_⟩, hmode⟩
      rcases hn.cases with hbefore | ⟨later, rfl, hlater⟩
      · rw [modeHere?_eq_some.mpr ⟨n, hn, hbefore, rfl⟩] at hhere
        cases hhere
      · exact Nat.succ_le_succ (hfirst later hlater)

theorem standbyMode?_of_isFirstIn (h : m.IsFirstIn s) : standbyMode? s = some m.mode := by
  cases hread : standbyMode? s with
  | none => exact absurd h.1 (standbyMode?_eq_none.mp hread m)
  | some word =>
    obtain ⟨n, hn, rfl⟩ := exists_isFirstIn hread
    rw [h.mode_eq hn]

/-! ### The last line -/

theorem isBlankText_iff : isBlankText s = true ↔ IsBlanks s := List.all_eq_true

/-- The last line that is not blank is found. -/
theorem lastLine?_eq_some : lastLine? lines = some line ↔ IsLastLine lines line := by
  unfold lastLine? IsLastLine
  rw [List.find?_eq_some_iff_append]
  simp only [Bool.not_eq_true', Bool.not_not, ← isBlankText_iff, Bool.not_eq_true]
  constructor
  · rintro ⟨hline, after, before, hsplit, hafter⟩
    refine ⟨before.reverse, after.reverse, ?_, hline, fun l hl => hafter l (List.mem_reverse.mp hl)⟩
    have hback := congrArg List.reverse hsplit
    simpa using hback
  · rintro ⟨before, after, rfl, hline, hafter⟩
    refine ⟨hline, after.reverse, before.reverse, by simp, fun l hl => hafter l (List.mem_reverse.mp hl)⟩

theorem hasMode_mode (info : Information) (lines : List String) : HasMode info lines (mode info lines) := by
  unfold mode
  split
  · rename_i hentry
    exact .entered hentry
  rename_i hentry
  split
  · rename_i hread
    obtain ⟨line, hline, hfound⟩ := Option.bind_eq_some_iff.mp hread
    obtain ⟨m, hm, rfl⟩ := exists_isFirstIn hfound
    exact .announced hentry (lastLine?_eq_some.mp hline) hm
  · rename_i hread
    refine .unknown hentry fun line hline => ?_
    rw [lastLine?_eq_some.mpr hline, Option.bind_some] at hread
    exact standbyMode?_eq_none.mp hread

/-- **The last line tells the mode.** The mode of a drive is the entry of its information. Without one it is that
of the leftmost message in the last line that is not blank, letter by letter as it stands there, and unknown when
there is no such line or no message in it, whatever the earlier lines say. -/
theorem mode_iff_hasMode (info : Information) (lines : List String) (value : String) :
    mode info lines = value ↔ HasMode info lines value := by
  constructor
  · rintro rfl
    exact hasMode_mode info lines
  · intro h
    unfold mode
    cases h with
    | entered hentry => rw [hentry]
    | @announced line m hentry hline hfirst =>
      rw [hentry, lastLine?_eq_some.mpr hline, Option.bind_some, standbyMode?_of_isFirstIn hfirst]
    | unknown hentry hsilent =>
      have hread : ((lastLine? lines).bind fun l => standbyMode? l.toList) = none := by
        cases hlast : lastLine? lines with
        | none => rfl
        | some line =>
          rw [Option.bind_some]
          exact standbyMode?_eq_none.mpr (hsilent line (lastLine?_eq_some.mp hlast))
      rw [hentry, hread]
      rfl

/-- The first of two messages, with letters of either case and a long s, in the last line that is not blank. -/
example : mode .empty
    ["Device is in SLEEP mode, exit(3)", "> DEVICE I\u017F in Idle_A Mode, EXIT(2) device is in B mode, exit(0)", " "] =
      "Idle_A" := by
  decide +kernel

end DriveHealth.Power
