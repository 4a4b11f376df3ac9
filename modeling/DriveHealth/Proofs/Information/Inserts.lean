/-
# Maps made by inserts

A map that is made of the empty one by inserts has each inserted key once, in the order in which the keys were
inserted first, and under each key the value that was inserted last. One insert keeps this (`IsMapOf.insert`), so
every sequence of inserts does. The values and the order of the other keys are left by an insert. What was
inserted in between cannot be told from the map: two sequences make maps that every query answers alike just when they
have the same order of first keys and the same last values.

Key definitions: `Information.Puts`, `Information.firstKeys`, `Information.IsMapOf`, `Information.Alike`.
Key theorems: `Information.IsMapOf.insert`, `Information.isMapOf_ofList`, `Information.filter_insert`,
`Information.ext_keys_get?`, `Information.inserts_make_an_ordered_map`.
-/
import DriveHealth.Proofs.Information.Collected

namespace DriveHealth.Information

variable {info a b : Information} {key other value : String} {pairs : List (String × String)}

/-- The insert puts this value under this key. -/
def Puts (pair : String × String) (key value : String) : Prop := pair = (key, value)

/-- The inserted keys, each where it was inserted first. -/
def firstKeys (pairs : List (String × String)) : List String := (pairs.map Prod.fst).eraseDups

/-- Every query is answered by the inserts. -/
structure IsMapOf (pairs : List (String × String)) (info : Information) : Prop where
  nodup : info.keys.Nodup
  keys : info.keys = firstKeys pairs
  get? : ∀ key value, info.get? key = some value ↔ TellsLast Puts pairs key value
  missing : ∀ key, info.get? key = none ↔ key ∉ pairs.map Prod.fst
  contains : ∀ key, info.contains key = (info.get? key).isSome
  size : info.size = (firstKeys pairs).length
  isEmpty : info.isEmpty = true ↔ pairs = []

/-- Every query has the same answer in both maps. -/
structure SameAnswers (a b : Information) : Prop where
  get? : ∀ key, a.get? key = b.get? key
  contains : ∀ key, a.contains key = b.contains key
  size : a.size = b.size
  isEmpty : a.isEmpty = b.isEmpty
  entries : a.entries = b.entries

/-- No query tells the maps apart, whatever is inserted into both of them before it. -/
def Alike (a b : Information) : Prop := ∀ later, SameAnswers (a.insertAll later) (b.insertAll later)

/-! ### Keys -/

theorem mem_firstKeys : key ∈ firstKeys pairs ↔ key ∈ pairs.map Prod.fst := List.mem_eraseDups

theorem firstKeys_concat : firstKeys (pairs ++ [(key, value)]) =
    if key ∈ firstKeys pairs then firstKeys pairs else firstKeys pairs ++ [key] := by
  have hlast : (List.map Prod.fst [(key, value)]).removeAll (pairs.map Prod.fst) =
      if key ∈ firstKeys pairs then [] else [key] := by
    simp only [mem_firstKeys, List.removeAll, List.map_cons, List.map_nil, List.filter_cons, List.filter_nil]
    by_cases h : key ∈ pairs.map Prod.fst <;> simp [h]
  unfold firstKeys at *
  rw [List.map_append, List.eraseDups_append, hlast]
  split
  · rw [List.eraseDups_nil, List.append_nil]
  · rfl

theorem keys_insert :
    (info.insert key value).keys = if key ∈ info.keys then info.keys else info.keys ++ [key] := by
  by_cases h : key ∈ info.keys
  · rw [if_pos h, keys_insert_of_mem h]
  · rw [if_neg h, keys_insert_of_not_mem h]

theorem contains_eq : info.contains key = (info.get? key).isSome := by
  rw [Bool.eq_iff_iff, Option.isSome_iff_ne_none, Ne, get?_eq_none, not_not]
  unfold contains Information.keys
  simp

/-- The queries that only ask for keys are answered by the keys. -/
theorem IsMapOf.of_keys (hnodup : info.keys.Nodup) (hkeys : info.keys = firstKeys pairs)
    (hget : ∀ key value, info.get? key = some value ↔ TellsLast Puts pairs key value) : IsMapOf pairs info where
  nodup := hnodup
  keys := hkeys
  get? := hget
  missing key := by rw [get?_eq_none, hkeys, mem_firstKeys]
  contains key := contains_eq
  size := by rw [← hkeys, Information.keys, List.length_map, Information.size]
  isEmpty := by
    have hnil : info.keys = [] ↔ pairs = [] := by
      rw [hkeys, List.eq_nil_iff_forall_not_mem]
      simp only [mem_firstKeys, ← List.eq_nil_iff_forall_not_mem, List.map_eq_nil_iff]
    unfold Information.isEmpty
    rw [List.isEmpty_iff, ← hnil, Information.keys, List.map_eq_nil_iff]

/-! ### One insert and many -/

theorem isMapOf_empty : IsMapOf [] empty :=
  IsMapOf.of_keys List.nodup_nil rfl fun key value => by simp [empty, Information.get?, TellsLast]

/-- One more insert is one more value under its key. -/
theorem IsMapOf.insert (h : IsMapOf pairs info) (key value : String) :
    IsMapOf (pairs ++ [(key, value)]) (info.insert key value) := by
  apply IsMapOf.of_keys
  · rw [keys_insert]
    split
    · exact h.nodup
    · rename_i hkey
      exact List.Nodup.append h.nodup (List.nodup_singleton key) (by simpa using hkey)
  · rw [keys_insert, firstKeys_concat, h.keys]
  · intro other v
    rw [get?_insert]
    by_cases hother : other = key
    · subst hother
      rw [if_pos rfl, tellsLast_concat_of_tells (rfl : Puts (other, value) other value)]
      simp [Puts]
    · have hsilent : ∀ v, ¬ Puts (key, value) other v := fun v hv => hother (Prod.mk.inj hv).1.symm
      rw [if_neg hother, tellsLast_concat_of_silent hsilent, h.get?]

/-- Every sequence of inserts makes a map of what was inserted. -/
theorem isMapOf_ofList (pairs : List (String × String)) : IsMapOf pairs (ofList pairs) := by
  induction pairs using List.reverseRecOn with
  | nil => exact isMapOf_empty
  | append_singleton pairs pair ih =>
    rw [ofList_concat]
    exact ih.insert pair.1 pair.2

/-- A key that is inserted again keeps its place and takes the later value. -/
example : (ofList [("devicemodel", "A"), ("serialnumber", "S1"), ("devicemodel", "B")]).entries =
    [("devicemodel", "B"), ("serialnumber", "S1")] := by
  decide

/-- The entries under the other keys keep their values and their order. -/
theorem filter_insert :
    (info.insert key value).entries.filter (fun e => e.1 ≠ key) = info.entries.filter fun e => e.1 ≠ key := by
  unfold Information.insert
  simp only
  induction info.entries with
  | nil => simp [insertEntry]
  | cons e entries ih =>
    unfold insertEntry
    by_cases he : e.1 = key
    · rw [if_pos he, List.filter_cons_of_neg (by simp [he]), List.filter_cons_of_neg (by simp [he])]
    · rw [if_neg he, List.filter_cons_of_pos (by simp [he]), List.filter_cons_of_pos (by simp [he]), ih]

/-! ### Maps that are alike -/

/-- Entries under different keys are told by the keys and the values that are found under them. -/
theorem entries_eq (h : info.keys.Nodup) :
    info.entries = info.keys.map fun key => (key, (info.get? key).getD "") := by
  calc info.entries = info.entries.map id := (List.map_id _).symm
    _ = info.entries.map fun e => (e.1, (info.get? e.1).getD "") := by
        apply List.map_congr_left
        intro e he
        rw [(get?_eq_some_of_nodup h).mpr he]
        rfl
    _ = info.keys.map fun key => (key, (info.get? key).getD "") := by
        unfold Information.keys
        rw [List.map_map]
        rfl

/-- A map is told by the order of its keys and their values. -/
theorem ext_keys_get? (ha : a.keys.Nodup) (hkeys : a.keys = b.keys) (hget : ∀ key, a.get? key = b.get? key) :
    a = b := by
  have hentries : a.entries = b.entries := by
    rw [entries_eq ha, entries_eq (hkeys ▸ ha), hkeys]
    simp only [hget]
  cases a
  cases b
  exact congrArg Information.mk hentries

theorem alike_iff : Alike a b ↔ a = b := by
  constructor
  · intro h
    have hentries : a.entries = b.entries := (h []).entries
    cases a
    cases b
    exact congrArg Information.mk hentries
  · rintro rfl later
    exact ⟨fun _ => rfl, fun _ => rfl, rfl, rfl, rfl⟩

/-- **Inserts make a map in the order of the first inserts.** Whatever is inserted into the empty map, no key stands
twice, the keys stand in the order of their first inserts, and every query is answered by what was inserted last. An
insert leaves the values and the order of the other keys. Maps that no query tells apart are those with the same order
of first inserts and the same last values. -/
theorem inserts_make_an_ordered_map (pairs : List (String × String)) :
    IsMapOf pairs (ofList pairs) ∧
    (∀ key value,
      (∀ other, other ≠ key → ((ofList pairs).insert key value).get? other = (ofList pairs).get? other) ∧
      ((ofList pairs).insert key value).entries.filter (fun e => e.1 ≠ key) =
        (ofList pairs).entries.filter fun e => e.1 ≠ key) ∧
    ∀ others, Alike (ofList pairs) (ofList others) ↔ firstKeys pairs = firstKeys others ∧
      ∀ key value, TellsLast Puts pairs key value ↔ TellsLast Puts others key value := by
  refine ⟨isMapOf_ofList pairs, fun key value => ⟨fun other hother => ?_, filter_insert⟩, fun others => ?_⟩
  · rw [get?_insert, if_neg hother]
  have hpairs := isMapOf_ofList pairs
  have hothers := isMapOf_ofList others
  rw [alike_iff, ← hpairs.keys, ← hothers.keys]
  simp only [← hpairs.get?, ← hothers.get?]
  constructor
  · intro h
    rw [h]
    exact ⟨rfl, fun key value => Iff.rfl⟩
  · rintro ⟨hkeys, hget⟩
    exact ext_keys_get? hpairs.nodup hkeys fun key => Option.ext fun value => hget key value

end DriveHealth.Information
