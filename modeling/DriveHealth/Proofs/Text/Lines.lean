/-
# Lines put together again

A text is made of its lines with a line feed after each, if it ends in one and no carriage return stands
right before a line feed. So blank lines are kept, and carriage returns elsewhere.

Key definitions: `Text.IsLines`, `Text.unlines`.
Key theorems: `Text.unlines_lines`, `Text.toList_joinLines`.
-/
import DriveHealth.Text.Layout
import Mathlib.Data.List.Basic

namespace DriveHealth.Text

/-- The lines with a line feed after each. -/
def unlines (ls : List (List Char)) : List Char := ls.flatMap fun l => l ++ ['\n']

/-- The text is empty or ends in a line feed, and no carriage return stands right before one. -/
structure IsLines (s : List Char) : Prop where
  ends : s = [] ∨ s.getLast? = some '\n'
  plain : ¬ ['\r', '\n'] <:+: s

theorem unlines_append (ls ls' : List (List Char)) : unlines (ls ++ ls') = unlines ls ++ unlines ls' :=
  List.flatMap_append

/-- A line that goes on to a line feed has no carriage return at its end. -/
theorem dropReturn_of_plain {line s : List Char} (h : ¬ ['\r', '\n'] <:+: line ++ '\n' :: s) :
    dropReturn line = line := by
  refine if_neg fun hlast => h ?_
  obtain ⟨before, rfl⟩ := List.getLast?_eq_some_iff.mp hlast
  exact ⟨before, s, by simp⟩

/-- A text whose first line is under way is made of its lines. -/
theorem unlines_linesFrom {line s : List Char} (hend : line = [] ∧ s = [] ∨ s.getLast? = some '\n')
    (hplain : ¬ ['\r', '\n'] <:+: line.reverse ++ s) : unlines (linesFrom line s) = line.reverse ++ s := by
  -- `line` holds what was read since the last line feed, last first
  induction s generalizing line with
  | nil =>
    obtain ⟨rfl, -⟩ | hend := hend
    · rfl
    · cases hend
  | cons c s ih =>
    have hlast : (c :: s).getLast? = some '\n' := hend.resolve_left fun h => by cases h.2
    rw [linesFrom]
    by_cases hc : c = '\n'
    · subst hc
      have hrest : unlines (linesFrom [] s) = s := by
        refine ih ?_ fun hin => hplain ?_
        · cases s with
          | nil => exact .inl ⟨rfl, rfl⟩
          | cons d s => exact .inr (by rwa [List.getLast?_cons_cons] at hlast)
        · exact hin.trans ⟨line.reverse ++ ['\n'], [], by simp⟩
      rw [if_pos rfl, dropReturn_of_plain hplain, unlines, List.flatMap_cons, ← unlines, hrest,
        List.append_assoc]
      rfl
    · have hrest : unlines (linesFrom (c :: line) s) = (c :: line).reverse ++ s := by
        refine ih ?_ fun hin => hplain ?_
        · cases s with
          | nil => exact absurd (Option.some.inj hlast) hc
          | cons d s => exact .inr (by rwa [List.getLast?_cons_cons] at hlast)
        · simpa using hin
      rw [if_neg hc, hrest]
      simp

/-- A text is made of its lines. -/
theorem IsLines.unlines_lines {s : List Char} (h : IsLines s) : unlines (lines s) = s :=
  unlines_linesFrom (h.ends.imp_left fun hnil => ⟨rfl, hnil⟩) h.plain

/-- Lines put together with line feeds between them lack the last line feed only. -/
theorem toList_joinLines : ∀ {ls : List String}, ls ≠ [] →
    (joinLines ls ++ "\n").toList = unlines (ls.map String.toList)
  | [], h => absurd rfl h
  | [l], _ => by simp [joinLines, unlines]
  | l :: next :: ls, _ => by
    have hrest : (joinLines (next :: ls) ++ "\n").toList = unlines ((next :: ls).map String.toList) :=
      toList_joinLines (List.cons_ne_nil _ _)
    have hjoin : joinLines (l :: next :: ls) = l ++ "\n" ++ joinLines (next :: ls) :=
      String.intercalate_cons_cons
    rw [hjoin, List.map_cons, unlines, List.flatMap_cons, ← unlines, ← hrest]
    simp

end DriveHealth.Text
