/-
# Cutting a list and putting elements into it

A list that ends in an element is cut at that element or before it (`cut_of_concat`). A list into which
elements of some class are put, at any places, is not told apart from the list without them by a search
that passes over the class (`Interspersed.find?_eq`), by a reading that skips it (`Interspersed.filterMap_eq`),
or by a section that no element of the class begins or ends (`Interspersed.drop_dropWhile`,
`Interspersed.takeWhile`).

Key definitions: `Interspersed`.
Key theorems: `cut_of_concat`, `Interspersed.filterMap_eq`, `Interspersed.find?_eq`,
`Interspersed.drop_dropWhile`, `Interspersed.takeWhile`.
-/

namespace DriveHealth

variable {α β : Type}

/-- Where a list that ends in `x` is cut at an element, either that is `x` or `x` ends what follows. -/
theorem cut_of_concat {xs before later : List α} {x a : α} (h : xs ++ [x] = before ++ a :: later) :
    (later = [] ∧ a = x) ∨ ∃ rest, later = rest ++ [x] ∧ xs = before ++ a :: rest := by
  rcases List.eq_nil_or_concat later with rfl | ⟨rest, y, rfl⟩
  · obtain ⟨-, hx⟩ := List.append_inj' h rfl
    cases hx
    exact .inl ⟨rfl, rfl⟩
  · rw [List.concat_eq_append, ← List.cons_append, ← List.append_assoc] at h
    obtain ⟨hxs, hx⟩ := List.append_inj' h rfl
    cases hx
    exact .inr ⟨rest, List.concat_eq_append, hxs⟩

/-! ### Elements put between others -/

/-- The second list is the first with elements of the class put in, at any places. -/
inductive Interspersed (P : α → Prop) : List α → List α → Prop
  | nil : Interspersed P [] []
  | keep (x : α) {xs ys : List α} : Interspersed P xs ys → Interspersed P (x :: xs) (x :: ys)
  | put {y : α} {xs ys : List α} : P y → Interspersed P xs ys → Interspersed P xs (y :: ys)

namespace Interspersed

variable {P : α → Prop} {xs ys : List α} {p : α → Bool}

theorem refl (P : α → Prop) (xs : List α) : Interspersed P xs xs := by
  induction xs with
  | nil => exact .nil
  | cons x xs ih => exact .keep x ih

/-- A reading that skips the class reads the same. -/
theorem filterMap_eq (h : Interspersed P xs ys) {read : α → Option β} (hread : ∀ x, P x → read x = none) :
    ys.filterMap read = xs.filterMap read := by
  induction h with
  | nil => rfl
  | keep x _ ih => rw [List.filterMap_cons, List.filterMap_cons, ih]
  | put hy _ ih => rw [List.filterMap_cons_none (hread _ hy), ih]

theorem findSome?_eq (h : Interspersed P xs ys) {read : α → Option β} (hread : ∀ x, P x → read x = none) :
    ys.findSome? read = xs.findSome? read := by
  rw [← List.head?_filterMap, ← List.head?_filterMap, h.filterMap_eq hread]

theorem filter_eq (h : Interspersed P xs ys) (hp : ∀ x, P x → p x = false) : ys.filter p = xs.filter p := by
  rw [← List.filterMap_eq_filter]
  exact h.filterMap_eq fun x hx => by simp [hp x hx]

/-- A search that passes over the class finds the same. -/
theorem find?_eq (h : Interspersed P xs ys) (hp : ∀ x, P x → p x = false) : ys.find? p = xs.find? p := by
  rw [← List.head?_filter, ← List.head?_filter, h.filter_eq hp]

theorem any_eq (h : Interspersed P xs ys) (hp : ∀ x, P x → p x = false) : ys.any p = xs.any p := by
  rw [← List.isSome_find?, ← List.isSome_find?, h.find?_eq hp]

/-- What comes after the first element of a class is the same but for the elements put in there. -/
theorem drop_dropWhile (h : Interspersed P xs ys) (hp : ∀ x, P x → p x = true) :
    Interspersed P ((xs.dropWhile p).drop 1) ((ys.dropWhile p).drop 1) := by
  induction h with
  | nil => exact .nil
  | keep x h ih =>
    by_cases hx : p x = true
    · rwa [List.dropWhile_cons_of_pos hx, List.dropWhile_cons_of_pos hx]
    · rwa [List.dropWhile_cons_of_neg hx, List.dropWhile_cons_of_neg hx]
  | put hy _ ih => rwa [List.dropWhile_cons_of_pos (hp _ hy)]

theorem takeWhile (h : Interspersed P xs ys) (hp : ∀ x, P x → p x = true) :
    Interspersed P (xs.takeWhile p) (ys.takeWhile p) := by
  induction h with
  | nil => exact .nil
  | keep x h ih =>
    by_cases hx : p x = true
    · rw [List.takeWhile_cons_of_pos hx, List.takeWhile_cons_of_pos hx]
      exact .keep x ih
    · rw [List.takeWhile_cons_of_neg hx, List.takeWhile_cons_of_neg hx]
      exact .nil
  | put hy _ ih =>
    rw [List.takeWhile_cons_of_pos (hp _ hy)]
    exact .put hy ih

end Interspersed

end DriveHealth
