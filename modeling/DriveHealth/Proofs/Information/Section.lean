/-
# What the information section gives

An output has at most one information section: the lines after the first one that holds the start marker,
up to the next one that holds a marker of the data section. Nothing outside of it reaches the information.
Its lines with a colon are collected under the keys of their labels, and then the model of the drive is
filled in from its newer entry where the older one is missing or empty.

Key definitions: `Information.IsSection`, `Information.IsEntry`, `Information.Promotes`.
Key theorems: `Information.isSection_iff`, `Information.entry?_eq_some`, `Information.promotes_promote`,
`Information.information_of_section`.
-/
import DriveHealth.Information.Section
import DriveHealth.Proofs.Information.Collected
import DriveHealth.Proofs.Text.Lower

namespace DriveHealth.Information

open Text

variable {lines body : List String} {line key value : String} {info : Information}

/-! ### The section -/

/-- The text stands somewhere in the line. -/
def Holds (text line : String) : Prop := text.toList <:+: line.toList

/-- The line holds one of the markers of the data section. -/
def HoldsDataMarker (line : String) : Prop := ∃ marker ∈ dataMarkers, Holds marker line

/-- The body is what stands between the first line with the start marker and the next one with a marker of
the data section, or the end. -/
def IsSection (lines body : List String) : Prop :=
  ∃ before start after, lines = before ++ start :: (body ++ after) ∧
    (∀ line ∈ before, ¬ Holds startMarker line) ∧ Holds startMarker start ∧
    (∀ line ∈ body, ¬ HoldsDataMarker line) ∧ ∀ line ∈ after.head?, HoldsDataMarker line

theorem not_startsSection_iff : (!startsSection line) = true ↔ ¬ Holds startMarker line := by
  rw [Bool.not_eq_true', ← Bool.not_eq_true, startsSection, occursIn_iff]
  rfl

theorem not_startsData_iff : (!startsData line) = true ↔ ¬ HoldsDataMarker line := by
  rw [Bool.not_eq_true', ← Bool.not_eq_true]
  simp only [startsData, HoldsDataMarker, Holds, List.any_eq_true, occursIn_iff]

/-- The reader cuts out the section. -/
theorem sectionLines_of_isSection (h : IsSection lines body) : sectionLines lines = body := by
  obtain ⟨before, start, after, rfl, hbefore, hstart, hbody, hafter⟩ := h
  have hdrop : ((before ++ start :: (body ++ after)).dropWhile fun l => !startsSection l) =
      start :: (body ++ after) := by
    rw [List.dropWhile_append_of_pos fun l hl => not_startsSection_iff.mpr (hbefore l hl)]
    exact List.dropWhile_cons_of_neg fun h => not_startsSection_iff.mp h hstart
  have hend : (after.takeWhile fun l => !startsData l) = [] := by
    cases after with
    | nil => rfl
    | cons l after => exact List.takeWhile_cons_of_neg fun h => not_startsData_iff.mp h (hafter l rfl)
  rw [sectionLines, hdrop, List.drop_one, List.tail_cons,
    List.takeWhile_append_of_pos fun l hl => not_startsData_iff.mpr (hbody l hl), hend, List.append_nil]

/-- An output with a line that starts a section has a section. -/
theorem isSection_sectionLines (h : ∃ line ∈ lines, Holds startMarker line) :
    IsSection lines (sectionLines lines) := by
  obtain ⟨line, hline, hstart⟩ := h
  have hsplit := List.takeWhile_append_dropWhile (p := fun l => !startsSection l) (l := lines)
  have hfirst := List.head?_dropWhile_not (fun l => !startsSection l) lines
  rcases hrest : lines.dropWhile (fun l => !startsSection l) with _ | ⟨start, rest⟩
  · exact absurd hstart (not_startsSection_iff.mp (List.dropWhile_eq_nil_iff.mp hrest line hline))
  rw [hrest] at hsplit hfirst
  have hbody : sectionLines lines = rest.takeWhile fun l => !startsData l := by
    rw [sectionLines, hrest, List.drop_one, List.tail_cons]
  rw [hbody]
  refine ⟨lines.takeWhile fun l => !startsSection l, start, rest.dropWhile fun l => !startsData l, ?_,
    fun l hl => ?_, ?_, fun l hl => ?_, fun l hl => ?_⟩
  · rw [List.takeWhile_append_dropWhile, hsplit]
  · exact not_startsSection_iff.mp (List.mem_takeWhile_imp (p := fun l => !startsSection l) hl)
  · by_contra hnot
    exact Bool.noConfusion (hfirst.symm.trans (not_startsSection_iff.mpr hnot))
  · exact not_startsData_iff.mp (List.mem_takeWhile_imp (p := fun l => !startsData l) hl)
  · have hdata := List.head?_dropWhile_not (fun l => !startsData l) rest
    rw [Option.mem_def.mp hl] at hdata
    by_contra hnot
    exact Bool.noConfusion (hdata.symm.trans (not_startsData_iff.mpr hnot))

/-- An output has a section if a line starts one, and then it has only the one that the reader cuts out. -/
theorem isSection_iff :
    IsSection lines body ↔ (∃ line ∈ lines, Holds startMarker line) ∧ sectionLines lines = body := by
  constructor
  · intro h
    have hbody := sectionLines_of_isSection h
    obtain ⟨before, start, after, rfl, -, hstart, -⟩ := h
    exact ⟨⟨start, by simp, hstart⟩, hbody⟩
  · rintro ⟨hstart, rfl⟩
    exact isSection_sectionLines hstart

theorem sectionLines_of_no_start (h : ∀ line ∈ lines, ¬ Holds startMarker line) : sectionLines lines = [] := by
  have hdrop : lines.dropWhile (fun l => !startsSection l) = [] :=
    List.dropWhile_eq_nil_iff.mpr fun l hl => not_startsSection_iff.mpr (h l hl)
  rw [sectionLines, hdrop]
  rfl

/-! ### The entries -/

/-- Before the first colon of the line stands a label with this key, and after it the value. -/
def IsEntry (line key value : String) : Prop :=
  ∃ label text, line.toList = label ++ ':' :: text ∧ ':' ∉ label ∧ key ≠ "" ∧
    key.toList = normalize (trim label) ∧ value.toList = trim text

theorem splitAtColon?_append {label : List Char} (h : ':' ∉ label) (text : List Char) :
    splitAtColon? (label ++ ':' :: text) = some (label, text) := by
  induction label with
  | nil => rw [List.nil_append, splitAtColon?, if_pos rfl]
  | cons c label ih =>
    rw [List.mem_cons, not_or] at h
    rw [List.cons_append, splitAtColon?, if_neg (Ne.symm h.1), ih h.2, Option.map_some]

theorem splitAtColon?_eq_some {s label text : List Char} (h : splitAtColon? s = some (label, text)) :
    s = label ++ ':' :: text ∧ ':' ∉ label := by
  induction s generalizing label with
  | nil => cases h
  | cons c s ih =>
    rw [splitAtColon?] at h
    split at h
    · rename_i hc
      cases h
      exact ⟨by rw [hc, List.nil_append], List.not_mem_nil⟩
    · rename_i hc
      obtain ⟨⟨label, text⟩, hcut, heq⟩ := Option.map_eq_some_iff.mp h
      cases heq
      obtain ⟨rfl, hnot⟩ := ih hcut
      refine ⟨rfl, fun hmem => ?_⟩
      rcases List.mem_cons.mp hmem with hcolon | hmem
      · exact hc hcolon.symm
      · exact hnot hmem

/-- The reader finds the entry of a line. -/
theorem entry?_eq_some : entry? line = some (key, value) ↔ IsEntry line key value := by
  unfold entry? IsEntry
  constructor
  · intro h
    split at h
    · cases h
    · rename_i label text hcut
      obtain ⟨hline, hcolon⟩ := splitAtColon?_eq_some hcut
      dsimp only at h
      split at h
      · cases h
      · rename_i hne
        cases h
        refine ⟨label, text, hline, hcolon, fun hempty => hne ?_, String.toList_ofList, String.toList_ofList⟩
        rw [← String.toList_ofList (l := normalize (trim label)), hempty]
        rfl
  · rintro ⟨label, text, hline, hcolon, hne, hkey, hvalue⟩
    rw [hline, splitAtColon?_append hcolon]
    dsimp only
    rw [if_neg fun hnil => hne ?_, ← hkey, ← hvalue, String.ofList_toList, String.ofList_toList]
    rw [← String.ofList_toList (s := key), hkey, hnil]

theorem trim_sublist (s : List Char) : (trim s).Sublist s := by
  have htrimEnd : (trimEnd (trimStart s)).Sublist (trimStart s).reverse.reverse :=
    (List.dropWhile_sublist _).reverse
  rw [List.reverse_reverse] at htrimEnd
  exact htrimEnd.trans (List.dropWhile_sublist _)

/-- No key has a space or a colon. -/
theorem IsEntry.plain_key (h : IsEntry line key value) : ' ' ∉ key.toList ∧ ':' ∉ key.toList := by
  obtain ⟨label, text, -, hcolon, -, hkey, -⟩ := h
  rw [hkey, normalize]
  constructor
  · intro hmem
    have hfilter := mem_of_mem_lower hmem (by decide) (by decide)
    simp at hfilter
  · intro hmem
    have hfilter := List.mem_filter.mp (mem_of_mem_lower hmem (by decide) (by decide))
    exact hcolon ((trim_sublist label).subset hfilter.1)

/-! ### The model -/

/-- `info` is `plain` with the model of the drive filled in from its newer entry, if the older one is missing
or empty. -/
structure Promotes (plain info : Information) : Prop where
  others : ∀ key, key ≠ "devicemodel" → info.get? key = plain.get? key
  unchanged : plain.get? "modelnumber" = none ∨ (∃ model, model ≠ "" ∧ plain.get? "devicemodel" = some model) →
    info = plain
  appended : ∀ model, plain.get? "modelnumber" = some model → plain.get? "devicemodel" = none →
    info.entries = plain.entries ++ [("devicemodel", model)]
  filled : ∀ model, plain.get? "modelnumber" = some model → plain.get? "devicemodel" = some "" →
    ∃ before after, plain.entries = before ++ ("devicemodel", "") :: after ∧
      "devicemodel" ∉ before.map Prod.fst ∧ info.entries = before ++ ("devicemodel", model) :: after

theorem promote_of_unneeded
    (h : info.get? "modelnumber" = none ∨ ∃ model, model ≠ "" ∧ info.get? "devicemodel" = some model) :
    info.promote = info := by
  simp only [promote, aliases, List.foldl_cons, List.foldl_nil]
  rcases h with hnewer | ⟨model, hne, holder⟩
  · rw [hnewer]
  · split
    · rfl
    · rw [holder, Option.getD_some, if_neg hne]

theorem promote_of_needed {model : String} (hnewer : info.get? "modelnumber" = some model)
    (holder : info.get? "devicemodel" = none ∨ info.get? "devicemodel" = some "") :
    info.promote = info.insert "devicemodel" model := by
  simp only [promote, aliases, List.foldl_cons, List.foldl_nil, hnewer]
  rcases holder with holder | holder <;> rw [holder] <;> rfl

/-- Either the older entry is there or there is no newer one, or the newer one is needed. -/
theorem promote_cases (info : Information) :
    (info.get? "modelnumber" = none ∨ ∃ model, model ≠ "" ∧ info.get? "devicemodel" = some model) ∨
    ∃ model, info.get? "modelnumber" = some model ∧
      (info.get? "devicemodel" = none ∨ info.get? "devicemodel" = some "") := by
  rcases hnewer : info.get? "modelnumber" with _ | model
  · exact .inl (.inl rfl)
  rcases holder : info.get? "devicemodel" with _ | older
  · exact .inr ⟨model, rfl, .inl rfl⟩
  by_cases hempty : older = ""
  · exact .inr ⟨model, rfl, .inr (by rw [hempty])⟩
  · exact .inl (.inr ⟨older, hempty, rfl⟩)

theorem promotes_promote (info : Information) : Promotes info info.promote where
  others key hkey := by
    rcases promote_cases info with h | ⟨model, hnewer, holder⟩
    · rw [promote_of_unneeded h]
    · rw [promote_of_needed hnewer holder, get?_insert, if_neg hkey]
  unchanged h := promote_of_unneeded h
  appended model hnewer holder := by
    rw [promote_of_needed hnewer (.inl holder), insert_of_not_mem (get?_eq_none.mp holder)]
  filled model hnewer holder := by
    obtain ⟨before, after, hsplit, hbefore⟩ := get?_eq_some.mp holder
    refine ⟨before, after, hsplit, hbefore, ?_⟩
    rw [promote_of_needed hnewer (.inr holder), insert_of_split hsplit hbefore]

theorem promote_promote (info : Information) : info.promote.promote = info.promote := by
  rcases promote_cases info with h | ⟨model, hnewer, holder⟩
  · rw [promote_of_unneeded h, promote_of_unneeded h]
  rw [promote_of_needed hnewer holder]
  have hnewer' : (info.insert "devicemodel" model).get? "modelnumber" = some model := by
    rw [get?_insert, if_neg (by decide), hnewer]
  have holder' : (info.insert "devicemodel" model).get? "devicemodel" = some model := by
    rw [get?_insert, if_pos rfl]
  by_cases hempty : model = ""
  · -- an empty model is filled in once more, by itself
    rw [promote_of_needed hnewer' (.inr (by rw [holder', hempty])), insert_of_get? holder']
  · exact promote_of_unneeded (.inr ⟨model, hempty, holder'⟩)

theorem mem_keys_promote (h : key ∈ info.promote.keys) : key ∈ info.keys ∨ key = "devicemodel" := by
  by_cases hkey : key = "devicemodel"
  · exact .inr hkey
  · left
    by_contra hnot
    have hnone := (promotes_promote info).others key hkey
    rw [get?_eq_none.mpr hnot] at hnone
    exact get?_eq_none.mp hnone h

/-! ### The information -/

theorem ofLines_of_no_start (h : ∀ line ∈ lines, ¬ Holds startMarker line) : ofLines lines = empty := by
  rw [ofLines, sectionLines_of_no_start h]
  rfl

theorem ofLines_of_isSection (h : IsSection lines body) :
    ofLines lines = (ofList (body.filterMap entry?)).promote := by
  rw [ofLines, sectionLines_of_isSection h]

theorem collects_body (body : List String) : Collects IsEntry body (ofList (body.filterMap entry?)) := by
  have hread (line key value : String) : IsEntry line key value ↔ entry? line = some (key, value) :=
    entry?_eq_some.symm
  exact collects_ofList hread body

/-- The keys of an output's information, the filled in one included. -/
theorem plain_keys (h : key ∈ (ofLines lines).keys) : key ≠ "" ∧ ' ' ∉ key.toList ∧ ':' ∉ key.toList := by
  by_cases hstart : ∃ line ∈ lines, Holds startMarker line
  · rw [ofLines_of_isSection (isSection_sectionLines hstart)] at h
    rcases mem_keys_promote h with hkey | rfl
    · obtain ⟨line, -, value, hentry⟩ := (collects_body _).mem_keys.mp hkey
      obtain ⟨hspace, hcolon⟩ := hentry.plain_key
      obtain ⟨label, text, -, -, hne, -⟩ := hentry
      exact ⟨hne, hspace, hcolon⟩
    · decide
  · rw [ofLines_of_no_start fun line hline hholds => hstart ⟨line, hline, hholds⟩] at h
    cases h

/-- **The information is what the section says.** An output without the start marker gives none. With it
there is one section, and outputs with the same section give the same information: what the lines of the
section collect, each label once where it stands first and with the value that stands last, and then the
model filled in where it is missing or empty. Filling in once more changes nothing, and no key is empty or
has a space or a colon. -/
theorem information_of_section (lines : List String) :
    ((∀ line ∈ lines, ¬ Holds startMarker line) → ofLines lines = empty) ∧
    ((∃ line ∈ lines, Holds startMarker line) → ∃ body, (∀ other, IsSection lines other ↔ other = body) ∧
      (∀ lines', IsSection lines' body → ofLines lines' = ofLines lines) ∧
      ∃ plain, (∀ info, Collects IsEntry body info ↔ info = plain) ∧ ofLines lines = plain.promote ∧
        Promotes plain plain.promote ∧ plain.promote.promote = plain.promote) ∧
    ∀ key ∈ (ofLines lines).keys, key ≠ "" ∧ ' ' ∉ key.toList ∧ ':' ∉ key.toList := by
  refine ⟨ofLines_of_no_start, fun hstart => ?_, fun key => plain_keys⟩
  have hsection : IsSection lines (sectionLines lines) := isSection_sectionLines hstart
  refine ⟨sectionLines lines, fun other => ?_, fun lines' h' => ?_, ofList ((sectionLines lines).filterMap entry?),
    fun info => ?_, rfl, promotes_promote _, promote_promote _⟩
  · rw [isSection_iff, and_iff_right hstart, eq_comm]
  · rw [ofLines_of_isSection h', ofLines_of_isSection hsection]
  · exact ⟨fun h => h.eq (collects_body _), fun h => h ▸ collects_body _⟩

example : (ofLines ["=== START OF INFORMATION SECTION ===", "Model Number: X1", "Serial Number: 1", "Device Model:",
    "SERIAL number: 2"]).entries = [("modelnumber", "X1"), ("serialnumber", "2"), ("devicemodel", "X1")] := by
  decide +kernel

end DriveHealth.Information
