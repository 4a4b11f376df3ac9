/-
# Blank lines tell nothing

Every reading of an output passes over a line of blanks: it is no row, no entry and no message, it holds no
marker and no text on the health of the drive, and the last line that counts is the last one that is not blank.
So an output and the same output with blank lines put in, anywhere, give the same readings.

Therefore runners that print the same but for blank lines are told apart only by the questions that ask for
the lines themselves. The step lemma (`Step.told_move`) keeps what the two monitors hold the same but for blank
lines, and the runs follow by induction (`Monitor.told_moves`).

Key definitions: `IsBlankLine`, `Cache.Padded`, `Run.Padded`, `Runner.Padded`, `Move.told`.
Key theorems: `Reading.snapshot_of_padded`, `Step.told_move`, `Monitor.told_moves`, `blank_lines_tell_nothing`.
-/
import DriveHealth.Proofs.Information.Section
import DriveHealth.Proofs.Monitor.Moves
import DriveHealth.Proofs.Sequence

namespace DriveHealth

/-- The line has no characters but blanks. -/
def IsBlankLine (line : String) : Prop := Text.IsBlanks line.toList

instance (line : String) : Decidable (IsBlankLine line) :=
  decidable_of_iff (Text.isBlankText line.toList = true) List.all_eq_true

variable {line : String} {lines padded : List String}

/-! ### What a blank line is not -/

namespace IsBlankLine

open Text

theorem not_mem {c : Char} (h : IsBlankLine line) (hc : isBlank c = false) : c ∉ line.toList := by
  intro hmem
  rw [h c hmem] at hc
  cases hc

/-- A text with a character that is not blank does not stand in the line. -/
theorem not_occursIn {text : List Char} (h : IsBlankLine line) (htext : isBlankText text = false) :
    occursIn text line.toList = false := by
  rw [← Bool.not_eq_true, occursIn_iff]
  intro hpart
  rw [isBlankText, List.all_eq_true.mpr fun c hc => h c (hpart.subset hc)] at htext
  cases htext

theorem not_any_occursIn {texts : List String} (h : IsBlankLine line)
    (htexts : ∀ text ∈ texts, isBlankText text.toList = false) :
    (texts.any fun text => occursIn text.toList line.toList) = false := by
  refine List.any_eq_false.mpr fun text htext => ?_
  rw [h.not_occursIn (htexts text htext)]
  exact Bool.false_ne_true

theorem trimStart_eq_nil (h : IsBlankLine line) : trimStart line.toList = [] := List.dropWhile_eq_nil_iff.mpr h

theorem no_attribute (h : IsBlankLine line) : Attribute.ofLine? line = none := by
  rw [Attribute.ofLine?, Attribute.Columns.read?, h.trimStart_eq_nil]
  rfl

theorem no_selfTest (h : IsBlankLine line) : SelfTest.ofLine? line = none := by
  have hsign : ['#'].isPrefixOf? line.toList = none := by
    refine Option.eq_none_iff_forall_not_mem.mpr fun rest hrest => ?_
    have hline := List.isPrefixOf?_eq_some_iff_append_eq.mp hrest
    exact h.not_mem (c := '#') (by decide) (hline ▸ List.mem_cons_self)
  rw [SelfTest.ofLine?, SelfTest.Columns.read?, hsign]
  rfl

theorem no_temperature (h : IsBlankLine line) : Temperature.ofLine? line = none := by
  rw [Temperature.ofLine?, Temperature.numeral?, h.trimStart_eq_nil]
  rfl

theorem no_entry (h : IsBlankLine line) : Information.entry? line = none := by
  refine Option.eq_none_iff_forall_not_mem.mpr fun ⟨key, value⟩ hentry => ?_
  obtain ⟨label, text, hline, -⟩ := Information.entry?_eq_some.mp hentry
  exact h.not_mem (c := ':') (by decide) (hline ▸ List.mem_append_right _ List.mem_cons_self)

theorem no_start (h : IsBlankLine line) : Information.startsSection line = false := h.not_occursIn (by decide)

theorem no_data (h : IsBlankLine line) : Information.startsData line = false := h.not_any_occursIn (by decide)

theorem no_health {texts : List String} (h : IsBlankLine line)
    (htexts : ∀ text ∈ texts, isBlankText text.toList = false) : Health.holdsAny texts line = false := by
  rw [Health.holdsAny, lower_of_isBlanks h]
  exact h.not_any_occursIn htexts

end IsBlankLine

/-! ### Readings -/

section Readings

variable (h : Interspersed IsBlankLine lines padded)
include h

theorem Attribute.table_of_padded : table padded = table lines :=
  h.filterMap_eq fun _ hl => hl.no_attribute

theorem SelfTest.log_of_padded : log padded = log lines :=
  h.filterMap_eq fun _ hl => hl.no_selfTest

theorem Information.ofLines_of_padded : ofLines padded = ofLines lines := by
  have hsection : Interspersed IsBlankLine (sectionLines lines) (sectionLines padded) :=
    (h.drop_dropWhile fun _ hl => by rw [hl.no_start, Bool.not_false]).takeWhile
      fun _ hl => by rw [hl.no_data, Bool.not_false]
  rw [ofLines, hsection.filterMap_eq fun _ hl => hl.no_entry, ofLines]

theorem Health.hasHealthLine_of_padded : hasHealthLine padded = hasHealthLine lines :=
  h.any_eq fun _ hl => hl.no_health (by decide)

theorem Health.hasPassingLine_of_padded : hasPassingLine padded = hasPassingLine lines :=
  h.any_eq fun _ hl => hl.no_health (by decide)

theorem Power.lastLine?_of_padded : lastLine? padded = lastLine? lines := by
  have hfilter := h.filter_eq (p := fun l => !Text.isBlankText l.toList) fun l hl => by
    rw [Text.isBlankText, List.all_eq_true.mpr hl, Bool.not_true]
  rw [lastLine?, lastLine?, ← List.head?_filter, ← List.head?_filter, List.filter_reverse, hfilter,
    List.filter_reverse]

namespace Reading

theorem support?_of_padded : support? padded = support? lines := by
  rw [support?, Information.ofLines_of_padded h, support?]

theorem isSupported_of_padded : isSupported padded = isSupported lines := by
  rw [isSupported, support?_of_padded h, Health.hasHealthLine_of_padded h, isSupported]

theorem isEnabled_of_padded : isEnabled padded = isEnabled lines := by
  rw [isEnabled, support?_of_padded h, Health.hasHealthLine_of_padded h, isEnabled]

theorem temperature_of_padded : temperature padded = temperature lines := by
  have hlines : Temperature.ofLines padded = Temperature.ofLines lines :=
    h.findSome?_eq fun _ hl => hl.no_temperature
  rw [temperature, Temperature.resolve, Attribute.table_of_padded h, hlines, ← Temperature.resolve, temperature]

theorem powerCounters_of_padded : powerCounters padded = powerCounters lines := by
  rw [powerCounters, Attribute.table_of_padded h, Information.ofLines_of_padded h, powerCounters]

theorem powerMode_of_padded : powerMode padded = powerMode lines := by
  rw [powerMode, Information.ofLines_of_padded h, Power.mode, Power.lastLine?_of_padded h, ← Power.mode, powerMode]

theorem verdict_of_padded (size : UInt64) : verdict size padded = verdict size lines := by
  rw [verdict, Attribute.table_of_padded h, Health.evaluate, Health.hasPassingLine_of_padded h, ← Health.evaluate,
    verdict]

/-- The whole snapshot of a drive is the same. -/
theorem snapshot_of_padded (m : Monitor) : snapshot m padded = snapshot m lines := by
  rw [snapshot, isSupported_of_padded h, isEnabled_of_padded h, verdict_of_padded h, temperature_of_padded h,
    powerCounters_of_padded h, powerMode_of_padded h, Information.ofLines_of_padded h, Attribute.table_of_padded h,
    SelfTest.log_of_padded h, snapshot]

end Reading

end Readings

/-! ### Steps -/

/-- The step answers with the lines themselves. -/
def Step.showsLines : Step → Bool
  | fetch _ | fetchWith _ _ _ | refresh _ | extendedText => true
  | _ => false

theorem Step.answer_of_padded {q : Step} (h : Interspersed IsBlankLine lines padded) (m : Monitor)
    (hq : q.showsLines = false) : q.answer m padded = q.answer m lines := by
  cases q with
  | fetch _ | fetchWith _ _ _ | refresh _ | extendedText => cases hq
  | attributes | firstAttribute _ => rw [answer, Attribute.table_of_padded h, answer]
  | information => rw [answer, Information.ofLines_of_padded h, answer]
  | selfTests => rw [answer, SelfTest.log_of_padded h, answer]
  | temperature | temperatureOr _ => rw [answer, Reading.temperature_of_padded h, answer]
  | powerCounters => rw [answer, Reading.powerCounters_of_padded h, answer]
  | powerMode => rw [answer, Reading.powerMode_of_padded h, answer]
  | overallStatus => rw [answer, Reading.verdict_of_padded h, answer]
  | isSupported => rw [answer, Reading.isSupported_of_padded h, answer]
  | isEnabled => rw [answer, Reading.isEnabled_of_padded h, answer]
  | collect => rw [answer, Reading.snapshot_of_padded h, answer]

/-- Both keep nothing, or the same kind of output, the second with blank lines put in. -/
inductive Cache.Padded : Cache → Cache → Prop
  | empty : Padded .empty .empty
  | filled (kind : OutputKind) {lines padded : List String} :
    Interspersed IsBlankLine lines padded → Padded (.filled kind lines) (.filled kind padded)

/-- Both fail alike, or run alike and the second prints blank lines besides. -/
inductive Run.Padded : Except Failure Run → Except Failure Run → Prop
  | failed (e : Failure) : Padded (.error e) (.error e)
  | ended (status : UInt8) {lines padded : List String} :
    Interspersed IsBlankLine lines padded → Padded (.ok ⟨status, lines⟩) (.ok ⟨status, padded⟩)

variable {σ : Type}

/-- To every call the second runner answers as the first one does, but for blank lines. -/
def Runner.Padded (runner runner' : Runner σ) : Prop :=
  ∀ c memory, Run.Padded (runner c memory).1 (runner' c memory).1 ∧ (runner' c memory).2 = (runner c memory).2

/-- What a move tells: its answer, unless that is lines or a failure, its calls and events, and the kind of
output that is kept. -/
def Move.told (mv : Move σ) : Step × Option Answer × List Call × List Event × Option OutputKind :=
  (mv.step, if mv.step.showsLines then none else mv.answer.toOption, mv.after.calls, mv.after.events,
    mv.after.cache.kind?)

variable {runner runner' : Runner σ} {m : Monitor} {q : Step} {cache cache' : Cache} {memory : σ}
  {answer answer' : Except Failure Run} {c : Call} {run : Run} {e : Failure}

theorem Run.Padded.judge_ok (h : Run.Padded answer answer') (hr : c.judge answer = .ok run) :
    ∃ padded, Interspersed IsBlankLine run.lines padded ∧ c.judge answer' = .ok ⟨run.status, padded⟩ := by
  obtain ⟨rfl, hfatal⟩ := Call.judge_eq_ok.mp hr
  cases h with
  | ended status h => exact ⟨_, h, Call.judge_eq_ok.mpr ⟨rfl, hfatal⟩⟩

/-- The message of a failure does not show the lines. -/
theorem Run.Padded.judge_error (h : Run.Padded answer answer') (hr : c.judge answer = .error e) :
    ∃ e', c.judge answer' = .error e' ∧ e'.message = e.message := by
  cases h with
  | failed e' =>
    cases hr
    exact ⟨_, rfl, rfl⟩
  | ended status h =>
    rw [Call.judge] at hr ⊢
    split at hr
    · rename_i hfatal
      cases hr
      exact ⟨_, if_pos hfatal, rfl⟩
    · cases hr

/-- A step finds its lines in both caches or in none. -/
theorem Cache.Padded.held (h : cache.Padded cache') (q : Step) :
    (q.held? cache = none ∧ q.held? cache' = none) ∨ ∃ lines padded, Interspersed IsBlankLine lines padded ∧
      q.held? cache = some lines ∧ q.held? cache' = some padded := by
  unfold Step.held?
  split
  · exact .inl ⟨rfl, rfl⟩
  cases h with
  | empty => exact .inl ⟨rfl, rfl⟩
  | filled kind h =>
    by_cases hcovers : kind.covers q.kind = true
    · exact .inr ⟨_, _, h, if_pos hcovers, if_pos hcovers⟩
    · exact .inl ⟨if_neg hcovers, if_neg hcovers⟩

theorem Cache.Padded.afterFailure (h : cache.Padded cache') (q : Step) :
    (q.afterFailure cache).Padded (q.afterFailure cache') := by
  unfold Step.afterFailure
  split
  · exact .empty
  · exact h

theorem Cache.Padded.kind?_eq (h : cache.Padded cache') : cache'.kind? = cache.kind? := by
  cases h <;> rfl

/-- A move tells the same, and what is kept after it is the same but for blank lines. -/
theorem Step.told_move (hrunner : runner.Padded runner') (hcache : cache.Padded cache') (m : Monitor) (q : Step)
    (memory : σ) :
    let mv := q.move runner m cache memory
    let mv' := q.move runner' m cache' memory
    mv'.told = mv.told ∧ mv.after.cache.Padded mv'.after.cache ∧ mv'.after.memory = mv.after.memory := by
  have hanswer {lines padded : List String} (h : Interspersed IsBlankLine lines padded) :
      (if q.showsLines then none else some (q.answer m padded)) =
        if q.showsLines then none else some (q.answer m lines) := by
    by_cases hq : q.showsLines = true
    · rw [if_pos hq, if_pos hq]
    · rw [answer_of_padded h m (Bool.not_eq_true _ ▸ hq)]
  dsimp only
  -- both find their lines, or both make the call, which then fails on both sides or on neither
  obtain ⟨hjudged, hmemory⟩ := hrunner (q.call m) memory
  rcases hcache.held q with ⟨hs, hs'⟩ | ⟨lines, padded, h, hs, hs'⟩
  · rcases hr : (q.call m).judge (runner (q.call m) memory).1 with e | run
    · obtain ⟨e', hr', hmessage⟩ := hjudged.judge_error hr
      have hevents : q.failureEvents m e' = q.failureEvents m e := by
        cases q with
        | powerMode => rw [failureEvents, hmessage, failureEvents]
        | _ => rfl
      rw [move_of_failed hs hr, move_of_failed hs' hr', hevents]
      have hkept := hcache.afterFailure q
      refine ⟨?_, hkept, hmemory⟩
      rw [Move.told, hkept.kind?_eq]
      cases q <;> rfl
    · obtain ⟨padded, h, hr'⟩ := hjudged.judge_ok hr
      rw [move_of_accepted hs hr, move_of_accepted hs' hr']
      refine ⟨?_, .filled _ h, hmemory⟩
      exact congrArg (fun answer => (q, answer, _)) (hanswer h)
  · rw [move_of_held hs, move_of_held hs']
    refine ⟨?_, hcache, rfl⟩
    rw [Move.told, hcache.kind?_eq]
    exact congrArg (fun answer => (q, answer, _)) (hanswer h)

/-- **A run tells nothing of blank lines.** Two monitors that keep the same but for blank lines, on runners that
print the same but for blank lines, make the same calls and log the same in every run, and give the same answers
to all questions but those for the lines themselves. -/
theorem Monitor.told_moves (hrunner : runner.Padded runner') (hcache : cache.Padded cache') (steps : List Step) :
    (m.moves runner' cache' memory steps).map Move.told = (m.moves runner cache memory steps).map Move.told := by
  -- the first move hands on caches that are padded again, and the same memory
  induction steps generalizing cache cache' memory with
  | nil => rfl
  | cons q rest ih =>
    obtain ⟨htold, hkept, hmemory⟩ := Step.told_move hrunner hcache m q memory
    rw [moves, moves, List.map_cons, List.map_cons, htold, hmemory, ih hkept]

/-! ### Snapshots -/

/-- What a request for a kind of output gives is kept afterwards. -/
theorem Monitor.lookup_of_fetch {kind : OutputKind} {s s' : Session σ}
    (h : m.fetch runner kind s = (.ok lines, s')) : s'.cache.lookup kind = some lines := by
  rcases hs : s.cache.lookup kind with _ | held
  · rcases hr : (m.callFor kind m.nocheck m.device.typeHint).judge
      (runner (m.callFor kind m.nocheck m.device.typeHint) s.memory).1 with e | run
    · rw [fetch, fetchWith_of_failed hs rfl hr] at h
      cases h
    · rw [fetch, fetchWith_of_accepted hs rfl hr] at h
      cases h
      exact Cache.lookup_filled _ _
  · rw [fetch, fetchWith_of_held hs] at h
    cases h
    exact hs

/-- Where the default output is to be had, the snapshot is read from it. -/
theorem Snapshot.collect_of_fetch {s : Session σ} (h : (m.fetch runner .default s).1 = .ok lines) :
    (collect runner m s).1 = .ok (Reading.snapshot m lines) := by
  have hfetch : m.fetch runner .default s = (.ok lines, (m.fetch runner .default s).2) := Prod.ext h rfl
  rw [collect_of_ok hfetch (Monitor.lookup_of_fetch hfetch)]

/-- **Blank lines carry no information.** When lines of blanks are put into an output, at any places, it has the
same attributes, information, self-tests, temperature, power counters and power mode, gives the same verdict at
every size of the drive, and tells the same of SMART. So two monitors of which one gets the output and the other
one the output with the blank lines, from a run or from what they keep, collect the same snapshot. -/
theorem blank_lines_tell_nothing {lines padded : List String} (h : Interspersed IsBlankLine lines padded) :
    Attribute.table padded = Attribute.table lines ∧
    Information.ofLines padded = Information.ofLines lines ∧
    SelfTest.log padded = SelfTest.log lines ∧
    Reading.temperature padded = Reading.temperature lines ∧
    Reading.powerCounters padded = Reading.powerCounters lines ∧
    Reading.powerMode padded = Reading.powerMode lines ∧
    (∀ size, Reading.verdict size padded = Reading.verdict size lines) ∧
    Reading.isSupported padded = Reading.isSupported lines ∧
    Reading.isEnabled padded = Reading.isEnabled lines ∧
    ∀ (σ : Type) (runner runner' : Runner σ) (m : Monitor) (s s' : Session σ),
      (m.fetch runner .default s).1 = .ok lines → (m.fetch runner' .default s').1 = .ok padded →
      ∃ snap, (Snapshot.collect runner m s).1 = .ok snap ∧ (Snapshot.collect runner' m s').1 = .ok snap := by
  refine ⟨Attribute.table_of_padded h, Information.ofLines_of_padded h, SelfTest.log_of_padded h,
    Reading.temperature_of_padded h, Reading.powerCounters_of_padded h, Reading.powerMode_of_padded h,
    Reading.verdict_of_padded h, Reading.isSupported_of_padded h, Reading.isEnabled_of_padded h,
    fun σ runner runner' m s s' hs hs' => ⟨Reading.snapshot m lines, Snapshot.collect_of_fetch hs, ?_⟩⟩
  rw [Snapshot.collect_of_fetch hs', Reading.snapshot_of_padded h]

/-- Blank lines before and in the information section and after the message on the power mode. -/
theorem blank_lines_tell_nothing_of_sleeping_drive :
    let lines := ["=== START OF INFORMATION SECTION ===", "Device Model: X1", "Device is in STANDBY mode, exit(2)"]
    let padded := ["", "=== START OF INFORMATION SECTION ===", "\t\r", "Device Model: X1",
      "Device is in STANDBY mode, exit(2)", "\u00A0\u3000", ""]
    Reading.powerMode padded = "STANDBY" ∧ Reading.powerMode padded = Reading.powerMode lines ∧
      Information.ofLines padded = Information.ofLines lines := by
  intro lines padded
  have hblank : ∀ line ∈ ["", "\t\r", "\u00A0\u3000"], IsBlankLine line := by decide +kernel
  have h : Interspersed IsBlankLine lines padded :=
    .put (hblank _ (by decide)) <| .keep _ <| .put (hblank _ (by decide)) <| .keep _ <| .keep _ <|
      .put (hblank _ (by decide)) <| .put (hblank _ (by decide)) .nil
  obtain ⟨-, hinformation, -, -, -, hmode, -⟩ := blank_lines_tell_nothing h
  exact ⟨by decide +kernel, hmode, hinformation⟩

end DriveHealth
