/-
# The sensor whose reading is taken

A table can show temperatures in several rows. The row that is taken is the least one in the order of trust: the
attribute counts first and the place in the table second. Rows that show no temperature are passed over, wherever
they stand, so a garbled or insane value hides neither a later row nor a less trusted attribute.

There are two nested searches, over the attributes and over the rows of each. They are described by the row at
which they end (`Temperature.isFirst_of_firstReading?`), and the description leaves no choice
(`Temperature.IsFirst.unique`).

Key definitions: `Temperature.Shows`, `Temperature.rank`, `Temperature.IsFirst`, `Temperature.Overlooked`.
Key theorems: `Temperature.ofAttributes_eq`, `Temperature.firstReading?_eq_some`,
`Temperature.reading_of_most_trusted_row`.
-/
import DriveHealth.Proofs.Sequence
import DriveHealth.Temperature
import Mathlib.Data.List.Basic

namespace DriveHealth.Temperature

variable {table table' before after after' : List Attribute} {a b : Attribute} {id i j : Nat} {t u : Int}

/-! ### Rows that show a temperature -/

/-- The place of an attribute in the order of trust; the ones that hold no temperature come last. -/
def rank : Nat → Nat
  | 190 => 0
  | 194 => 1
  | 231 => 2
  | _ => 3

/-- The row is of an attribute that holds a temperature, and its raw value starts with the integer `t`, which a
working sensor can give. -/
structure Shows (a : Attribute) (t : Int) : Prop where
  id : a.id = 190 ∨ a.id = 194 ∨ a.id = 231
  reading : Numeral.leadingInt a.rawValue.toList = some t
  low : -15 ≤ t
  high : t ≤ 100

/-- The row `a` at place `i` shows `t`, and all rows that show a temperature are of a less trusted attribute, or
of the same one and not earlier in the table. -/
structure IsFirst (table : List Attribute) (i : Nat) (a : Attribute) (t : Int) : Prop where
  row : table[i]? = some a
  shows : Shows a t
  least : ∀ j b u, table[j]? = some b → Shows b u → rank a.id < rank b.id ∨ (rank a.id = rank b.id ∧ i ≤ j)

/-- After the rows `before` this row is not looked at: it shows no temperature, or one of the same attribute
has shown its own. -/
def Overlooked (before : List Attribute) (b : Attribute) : Prop :=
  (∀ u, ¬ Shows b u) ∨ ∃ a ∈ before, a.id = b.id ∧ ∃ t, Shows a t

theorem attributeIds_pairwise : attributeIds.Pairwise fun id other => rank id < rank other := by decide

/-- What a row says of attribute `id`. -/
def reading? (id : Nat) (a : Attribute) : Option Int :=
  if a.id = id then (Numeral.leadingInt a.rawValue.toList).filter isSane else none

theorem reading?_eq_some : reading? id a = some t ↔
    a.id = id ∧ Numeral.leadingInt a.rawValue.toList = some t ∧ -15 ≤ t ∧ t ≤ 100 := by
  unfold reading?
  split
  · rename_i hid
    simp only [Option.filter_eq_some_iff, isSane, Bool.and_eq_true, decide_eq_true_eq, hid, true_and]
  · rename_i hid
    simp only [reduceCtorEq, hid, false_and]

theorem shows_iff : Shows a t ↔ a.id ∈ attributeIds ∧ reading? a.id a = some t := by
  rw [reading?_eq_some, attributeIds, List.mem_cons, List.mem_cons, List.mem_singleton]
  exact ⟨fun h => ⟨h.id, rfl, h.reading, h.low, h.high⟩, fun ⟨hid, _, hreading, hlow, hhigh⟩ =>
    ⟨hid, hreading, hlow, hhigh⟩⟩

theorem Shows.reading?_eq (h : Shows a t) (hid : a.id = id) : reading? id a = some t := hid ▸ (shows_iff.mp h).2

theorem Shows.unique (h : Shows a t) (h' : Shows a u) : t = u := by
  have hreading := h.reading
  rw [h'.reading] at hreading
  exact (Option.some.inj hreading).symm

/-! ### The searches -/

/-- The reading that the two searches find, before it is narrowed to 32 bits. -/
def firstReading? (table : List Attribute) : Option Int :=
  attributeIds.findSome? fun id => table.findSome? (reading? id)

theorem ofAttribute?_eq (table : List Attribute) (id : Nat) :
    ofAttribute? table id = (table.findSome? (reading? id)).map Int32.ofInt := by
  have hreading : (fun a : Attribute => if decide (a.id = id) = true then
      (Numeral.leadingInt a.rawValue.toList).filter isSane else none) = reading? id := by
    funext a
    simp only [reading?, decide_eq_true_eq]
  rw [ofAttribute?, ← List.head?_filter, List.filter_filterMap, List.filterMap_filter, hreading,
    List.head?_filterMap]

theorem ofAttributes_eq (table : List Attribute) : ofAttributes table = (firstReading? table).map Int32.ofInt := by
  have hattribute : ofAttribute? table = fun id => (table.findSome? (reading? id)).map Int32.ofInt :=
    funext (ofAttribute?_eq table)
  rw [ofAttributes, hattribute, firstReading?, List.map_findSome?]
  rfl

/-- The searches end at the first row. -/
theorem isFirst_of_firstReading? (h : firstReading? table = some t) : ∃ i a, IsFirst table i a t := by
  obtain ⟨more, id, less, hids, hrow, hmore⟩ := List.findSome?_eq_some_iff.mp h
  obtain ⟨before, a, after, rfl, ha, hbefore⟩ := List.findSome?_eq_some_iff.mp hrow
  obtain ⟨rfl, -⟩ := reading?_eq_some.mp ha
  have hid : a.id ∈ attributeIds := by
    rw [hids]
    exact List.mem_append_right _ List.mem_cons_self
  refine ⟨before.length, a, by simp, shows_iff.mpr ⟨hid, ha⟩, fun j b u hb hshows => ?_⟩
  obtain ⟨hbid, hreading⟩ := shows_iff.mp hshows
  rw [hids, List.mem_append, List.mem_cons] at hbid
  rcases hbid with hbid | hbid | hbid
  · -- all rows of a more trusted attribute were passed over
    have hnone := List.findSome?_eq_none_iff.mp (hmore b.id hbid) b (List.mem_of_getElem? hb)
    rw [hreading] at hnone
    cases hnone
  · refine .inr ⟨by rw [hbid], Nat.le_of_not_lt fun hlt => ?_⟩
    rw [List.getElem?_append_left hlt] at hb
    have hnone := hbefore b (List.mem_of_getElem? hb)
    rw [← hbid, hreading] at hnone
    cases hnone
  · have hpairwise := attributeIds_pairwise
    rw [hids, List.pairwise_append, List.pairwise_cons] at hpairwise
    exact .inl (hpairwise.2.1.1 b.id hbid)

/-- Only one reading is first. -/
theorem IsFirst.unique (h : IsFirst table i a t) (h' : IsFirst table j b u) : t = u := by
  have hle := h.least j b u h'.row h'.shows
  have hge := h'.least i a t h.row h.shows
  obtain rfl : i = j := by omega
  have hrow := h.row
  rw [h'.row] at hrow
  cases hrow
  exact h.shows.unique h'.shows

theorem firstReading?_isSome : (firstReading? table).isSome ↔ ∃ a ∈ table, ∃ t, Shows a t := by
  constructor
  · intro h
    obtain ⟨t, ht⟩ := Option.isSome_iff_exists.mp h
    obtain ⟨i, a, hfirst⟩ := isFirst_of_firstReading? ht
    exact ⟨a, List.mem_of_getElem? hfirst.row, t, hfirst.shows⟩
  · rintro ⟨a, ha, t, hshows⟩
    obtain ⟨hid, hreading⟩ := shows_iff.mp hshows
    refine List.findSome?_isSome_iff.mpr ⟨a.id, hid, List.findSome?_isSome_iff.mpr ⟨a, ha, ?_⟩⟩
    rw [hreading, Option.isSome_some]

/-- The reading found is the one of the first row. -/
theorem firstReading?_eq_some : firstReading? table = some t ↔ ∃ i a, IsFirst table i a t := by
  refine ⟨isFirst_of_firstReading?, fun ⟨i, a, h⟩ => ?_⟩
  obtain ⟨u, hu⟩ := Option.isSome_iff_exists.mp
    (firstReading?_isSome.mpr ⟨a, List.mem_of_getElem? h.row, t, h.shows⟩)
  obtain ⟨j, b, h'⟩ := isFirst_of_firstReading? hu
  rw [hu, h.unique h']

/-- The narrowing to 32 bits keeps every sane reading. -/
theorem Shows.toInt_ofInt (h : Shows a t) : (Int32.ofInt t).toInt = t := by
  have hlow := h.low
  have hhigh := h.high
  exact Int32.toInt_ofInt_of_le (by omega) (by omega)

theorem ofAttributes_eq_some {t : Int32} : ofAttributes table = some t ↔ firstReading? table = some t.toInt := by
  rw [ofAttributes_eq, Option.map_eq_some_iff]
  constructor
  · rintro ⟨u, hu, rfl⟩
    obtain ⟨i, a, hfirst⟩ := isFirst_of_firstReading? hu
    rw [hfirst.shows.toInt_ofInt, hu]
  · intro h
    exact ⟨t.toInt, h, Int32.ofInt_toInt t⟩

/-! ### What the reading does not depend on -/

/-- Rows that are not looked at can be put in or taken out. -/
theorem findSome?_of_overlooked (h : Interspersed (Overlooked before) after after') (hid : id ∈ attributeIds) :
    (before ++ after').findSome? (reading? id) = (before ++ after).findSome? (reading? id) := by
  rw [List.findSome?_append, List.findSome?_append]
  rcases hbefore : before.findSome? (reading? id) with _ | t
  · -- no earlier row of this attribute shows a temperature, so an overlooked one shows none itself
    rw [h.findSome?_eq fun b hb => ?_]
    rw [Option.eq_none_iff_forall_ne_some]
    intro u hu
    obtain ⟨rfl, -⟩ := reading?_eq_some.mp hu
    rcases hb with hb | ⟨a, ha, haid, t, hshows⟩
    · exact hb u (shows_iff.mpr ⟨hid, hu⟩)
    · have hnone := List.findSome?_eq_none_iff.mp hbefore a ha
      rw [hshows.reading?_eq haid] at hnone
      cases hnone
  · rfl

theorem ofAttributes_of_overlooked (h : Interspersed (Overlooked before) after after') :
    ofAttributes (before ++ after') = ofAttributes (before ++ after) := by
  have hfirst : firstReading? (before ++ after') = firstReading? (before ++ after) := by
    unfold firstReading?
    rw [← List.head?_filterMap, ← List.head?_filterMap,
      List.filterMap_congr fun id hid => findSome?_of_overlooked h hid]
  rw [ofAttributes_eq, hfirst, ofAttributes_eq]

/-- Only the order among rows of one attribute matters. -/
theorem ofAttributes_of_reordered
    (h : ∀ id, table'.filter (fun a => a.id = id) = table.filter fun a => a.id = id) :
    ofAttributes table' = ofAttributes table := by
  have hattribute : ofAttribute? table' = ofAttribute? table := by
    funext id
    rw [ofAttribute?, h id, ofAttribute?]
  rw [ofAttributes, hattribute, ofAttributes]

/-- **The temperature of a table is that of its most trusted sane row.** There is one just when some row of
attribute 190, 194 or 231 has a raw value that starts with an integer from -15 to 100, and it is that integer of
the row that comes first in this order of the attributes and then in the table. It stays the same when rows are
put in or taken out that show no temperature or stand after one of their attribute that shows its own, and when
the rows are reordered so that those of each attribute keep their order. -/
theorem reading_of_most_trusted_row :
    (∀ table, (ofAttributes table).isSome ↔ ∃ a ∈ table, ∃ t, Shows a t) ∧
    (∀ table (t : Int32), ofAttributes table = some t ↔ ∃ i a, IsFirst table i a t.toInt) ∧
    (∀ before after after', Interspersed (Overlooked before) after after' →
      ofAttributes (before ++ after') = ofAttributes (before ++ after)) ∧
    (∀ table table', (∀ id, table'.filter (fun a => a.id = id) = table.filter fun a => a.id = id) →
      ofAttributes table' = ofAttributes table) := by
  refine ⟨fun table => ?_, fun table t => ?_, fun before after after' => ofAttributes_of_overlooked,
    fun table table' => ofAttributes_of_reordered⟩
  · rw [ofAttributes_eq, Option.isSome_map, firstReading?_isSome]
  · rw [ofAttributes_eq_some, firstReading?_eq_some]

end DriveHealth.Temperature
