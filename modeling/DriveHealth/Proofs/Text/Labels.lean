/-
# Texts that start with a label

Some columns start with one of a few fixed labels. When none of the labels begins with another one, a text starts
with one of them at most, and trying them in turn finds it whatever their order.

Key definitions: `Text.Incomparable`.
Key theorems: `Text.Incomparable.cancel`, `Text.Incomparable.findSome?_eq_some`, `Text.stops_append_of_head`.
-/
import DriveHealth.Proofs.Text.Cells

namespace DriveHealth.Text

variable {α : Type} {label : α → List Char} {items : List α} {a b : α} {s rest rest' : List Char}

/-- No label begins with the label of another item. -/
def Incomparable (label : α → List Char) (items : List α) : Prop :=
  ∀ a ∈ items, ∀ b ∈ items, label a <+: label b → a = b

/-- A text begins with one label only. -/
theorem Incomparable.cancel (h : Incomparable label items) (ha : a ∈ items) (hb : b ∈ items)
    (heq : label a ++ rest = label b ++ rest') : a = b ∧ rest = rest' := by
  have hab : a = b := by
    rcases List.append_eq_append_iff.mp heq with ⟨more, hlabel, -⟩ | ⟨more, hlabel, -⟩
    · exact h a ha b hb ⟨more, hlabel.symm⟩
    · exact (h b hb a ha ⟨more, hlabel.symm⟩).symm
  subst hab
  exact ⟨rfl, List.append_cancel_left heq⟩

/-- Trying the labels in turn finds the one that the text starts with. -/
theorem Incomparable.findSome?_eq_some (h : Incomparable label items) :
    (items.findSome? fun a => ((label a).isPrefixOf? s).map fun rest => (a, rest)) = some (a, rest) ↔
      a ∈ items ∧ label a ++ rest = s := by
  have hsound {b : α} {rest' : List Char}
      (hfound : (items.findSome? fun a => ((label a).isPrefixOf? s).map fun rest => (a, rest)) = some (b, rest')) :
      b ∈ items ∧ label b ++ rest' = s := by
    obtain ⟨c, hc, hmatch⟩ := List.exists_of_findSome?_eq_some hfound
    obtain ⟨_, hprefix, hpair⟩ := Option.map_eq_some_iff.mp hmatch
    cases hpair
    exact ⟨hc, List.isPrefixOf?_eq_some_iff_append_eq.mp hprefix⟩
  refine ⟨hsound, fun ⟨ha, heq⟩ => ?_⟩
  cases hread : items.findSome? fun a => ((label a).isPrefixOf? s).map fun rest => (a, rest) with
  | none =>
    have hnone := List.findSome?_eq_none_iff.mp hread a ha
    rw [List.isPrefixOf?_eq_some_iff_append_eq.mpr heq] at hnone
    cases hnone
  | some found =>
    obtain ⟨b, rest'⟩ := found
    obtain ⟨hb, hrest⟩ := hsound hread
    obtain ⟨rfl, rfl⟩ := h.cancel ha hb (heq.trans hrest.symm)
    rfl

theorem Incomparable.findSome?_rest (h : Incomparable label items) :
    (items.findSome? fun a => (label a).isPrefixOf? s) = some rest ↔ ∃ a ∈ items, label a ++ rest = s := by
  have hpair : (items.findSome? fun a => (label a).isPrefixOf? s) =
      (items.findSome? fun a => ((label a).isPrefixOf? s).map fun rest => (a, rest)).map Prod.snd := by
    simp only [List.map_findSome?, Function.comp_def, Option.map_map, Option.map_id']
  rw [hpair, Option.map_eq_some_iff, Prod.exists]
  simp only [h.findSome?_eq_some, exists_eq_right]

/-- A label that starts with a character outside of a class ends a run of the class before it. -/
theorem stops_append_of_head {p : Char → Bool} {label : List Char} (h : (label.head?.any fun c => !p c) = true)
    (s : List Char) : Stops p (label ++ s) := by
  cases label with
  | nil => cases h
  | cons c label =>
    rw [List.head?_cons, Option.any_some] at h
    exact stops_cons.mpr (by simpa using h)

end DriveHealth.Text
