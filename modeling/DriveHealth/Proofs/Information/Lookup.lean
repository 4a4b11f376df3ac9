/-
# What an output tells under a key

Looking a key up in the information of an output gives the value of the last entry with that key in the
section, and nothing when the section has no such entry or when there is no section. Only the filled-in
model of the drive is an exception. A line with a marker of the data section cuts the output off: when the
section has started before it, neither that line nor any line after it changes the information.

Key definitions: `Information.Tells`.
Key theorems: `Information.get?_ofLines_eq_some`, `Information.get?_ofLines_eq_none`,
`Information.ofLines_append_data`.
-/
import DriveHealth.Proofs.Information.Section

namespace DriveHealth.Information

variable {lines body front after : List String} {key value data : String}

/-- The last entry with this key in the section of the lines has this value. -/
def Tells (lines : List String) (key value : String) : Prop :=
  ∃ body, IsSection lines body ∧ TellsLast IsEntry body key value

theorem Tells.exists_start (h : Tells lines key value) : ∃ line ∈ lines, Holds startMarker line := by
  obtain ⟨body, hbody, -⟩ := h
  exact (isSection_iff.mp hbody).1

theorem tells_iff (h : IsSection lines body) : Tells lines key value ↔ TellsLast IsEntry body key value := by
  constructor
  · rintro ⟨other, hother, htells⟩
    rwa [← sectionLines_of_isSection h, sectionLines_of_isSection hother]
  · exact fun htells => ⟨body, h, htells⟩

/-- Looking a key up finds the value of its last entry in the section. -/
theorem get?_ofLines_eq_some (hkey : key ≠ "devicemodel") :
    (ofLines lines).get? key = some value ↔ Tells lines key value := by
  by_cases hstart : ∃ line ∈ lines, Holds startMarker line
  · have hsection := isSection_sectionLines hstart
    rw [ofLines_of_isSection hsection, (promotes_promote _).others key hkey, (collects_body _).get?_eq_some,
      tells_iff hsection]
  · rw [ofLines_of_no_start fun line hline hholds => hstart ⟨line, hline, hholds⟩]
    exact iff_of_false (fun h => by cases h) fun h => hstart h.exists_start

/-- Looking a key up finds nothing when the section has no entry with it. -/
theorem get?_ofLines_eq_none (hkey : key ≠ "devicemodel") :
    (ofLines lines).get? key = none ↔ ∀ value, ¬ Tells lines key value := by
  simp only [Option.eq_none_iff_forall_ne_some, ne_eq, get?_ofLines_eq_some hkey]

/-- Where no line has the key, the section has no entry with it. -/
theorem not_tells_of_not_mentions (h : ¬ Mentions IsEntry lines key) (value : String) : ¬ Tells lines key value := by
  rintro ⟨body, hbody, hlast⟩
  obtain ⟨line, hline, hentry⟩ := mentions_iff_exists_tellsLast.mpr ⟨value, hlast⟩
  obtain ⟨before, start, after, rfl, -⟩ := hbody
  exact h ⟨line, by simp [hline], hentry⟩

/-- Some line has the key when it is among the keys of all entries. -/
theorem mentions_iff_mem : Mentions IsEntry lines key ↔ key ∈ (lines.filterMap entry?).map Prod.fst := by
  simp only [Mentions, ← entry?_eq_some, List.mem_map, List.mem_filterMap]
  constructor
  · rintro ⟨line, hline, value, hread⟩
    exact ⟨(key, value), ⟨line, hline, hread⟩, rfl⟩
  · rintro ⟨⟨_, value⟩, ⟨line, hline, hread⟩, rfl⟩
    exact ⟨line, hline, value, hread⟩

/-! ### Behind the section -/

/-- A section ends before a line with a marker of the data section, whatever follows. -/
theorem IsSection.append_data (h : IsSection front body) (hdata : HoldsDataMarker data) :
    IsSection (front ++ data :: after) body := by
  obtain ⟨before, start, rest, rfl, hbefore, hstart, hbody, hrest⟩ := h
  refine ⟨before, start, rest ++ data :: after, by simp, hbefore, hstart, hbody, fun line hline => ?_⟩
  cases rest with
  | nil =>
    cases hline
    exact hdata
  | cons l rest => exact hrest line hline

/-- The data section adds nothing to the information. -/
theorem ofLines_append_data (hstart : ∃ line ∈ front, Holds startMarker line) (hdata : HoldsDataMarker data) :
    ofLines (front ++ data :: after) = ofLines front := by
  have hsection := isSection_sectionLines hstart
  rw [ofLines_of_isSection (hsection.append_data hdata), ofLines_of_isSection hsection]

end DriveHealth.Information
