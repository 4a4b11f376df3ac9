/-
# Information collected from a list

Each element of a list may tell one value of one key. Information is collected from the list when every key
that is told of stands in it once, the keys in the order in which they were told of first, each with the
value that was told last. There is only one such information (`Collects.eq`), and inserting what the
elements tell one after another gives it (`collects_ofList`): an insert of a key that is there changes the
value in its place, and one of a new key puts it at the end.

Key definitions: `Information.keys`, `Information.Mentions`, `Information.TellsLast`,
`Information.TellsBefore`, `Information.Collects`.
Key theorems: `Information.get?_eq_some`, `Information.mem_insert`, `Information.Collects.eq`,
`Information.Collects.concat`, `Information.collects_ofList`.
-/
import DriveHealth.Information.Section
import DriveHealth.Proofs.Sequence
import Mathlib.Data.List.Induction
import Mathlib.Data.List.Nodup

namespace DriveHealth.Information

/-- The keys, in the order of the entries. -/
def keys (info : Information) : List String := info.entries.map Prod.fst

variable {info info' : Information} {key other value old : String}
  {before after entries : List (String × String)}

/-! ### Looking up and inserting -/

theorem get?_eq_some : info.get? key = some value ↔
    ∃ before after, info.entries = before ++ (key, value) :: after ∧ key ∉ before.map Prod.fst := by
  simp only [get?, List.lookup_eq_some_iff, List.mem_map, not_exists, not_and, bne_iff_ne, ne_eq,
    @eq_comm _ key]

theorem get?_eq_none : info.get? key = none ↔ key ∉ info.keys := by
  simp only [get?, keys, List.lookup_eq_none_iff, List.mem_map, not_exists, not_and, bne_iff_ne, ne_eq,
    @eq_comm _ key]

theorem lookup_cons_ite {e : String × String} :
    (e :: entries).lookup key = if key = e.1 then some e.2 else entries.lookup key := by
  rw [List.lookup_cons, beq_eq_decide]
  by_cases h : key = e.1 <;> simp [h]

/-- An insert changes the value of its own key alone. -/
theorem lookup_insertEntry :
    (insertEntry key value entries).lookup other = if other = key then some value else entries.lookup other := by
  induction entries with
  | nil => exact lookup_cons_ite
  | cons e entries ih =>
    rw [insertEntry]
    by_cases he : e.1 = key
    · rw [if_pos he, lookup_cons_ite, lookup_cons_ite, he]
      split <;> rfl
    · rw [if_neg he, lookup_cons_ite, lookup_cons_ite, ih]
      by_cases ho : other = e.1
      · rw [if_pos ho, if_pos ho, if_neg (ho ▸ he)]
      · rw [if_neg ho, if_neg ho]

theorem get?_insert :
    (info.insert key value).get? other = if other = key then some value else info.get? other :=
  lookup_insertEntry

theorem insertEntry_of_not_mem (h : key ∉ entries.map Prod.fst) :
    insertEntry key value entries = entries ++ [(key, value)] := by
  induction entries with
  | nil => rfl
  | cons e entries ih =>
    rw [List.map_cons, List.mem_cons, not_or] at h
    rw [insertEntry, if_neg (Ne.symm h.1), ih h.2, List.cons_append]

theorem insertEntry_of_split (h : key ∉ before.map Prod.fst) :
    insertEntry key value (before ++ (key, old) :: after) = before ++ (key, value) :: after := by
  induction before with
  | nil => rw [List.nil_append, insertEntry, if_pos rfl, List.nil_append]
  | cons e before ih =>
    rw [List.map_cons, List.mem_cons, not_or] at h
    rw [List.cons_append, insertEntry, if_neg (Ne.symm h.1), ih h.2, List.cons_append]

/-- A new key comes last. -/
theorem insert_of_not_mem (h : key ∉ info.keys) :
    info.insert key value = ⟨info.entries ++ [(key, value)]⟩ := by
  rw [insert, insertEntry_of_not_mem h]

/-- A key that has a value gets the new one in its place. -/
theorem insert_of_split (hsplit : info.entries = before ++ (key, old) :: after)
    (h : key ∉ before.map Prod.fst) : info.insert key value = ⟨before ++ (key, value) :: after⟩ := by
  rw [insert, hsplit, insertEntry_of_split h]

/-- An insert of what is there changes nothing. -/
theorem insert_of_get? (h : info.get? key = some value) : info.insert key value = info := by
  obtain ⟨before, after, hsplit, hbefore⟩ := get?_eq_some.mp h
  rw [insert_of_split hsplit hbefore, ← hsplit]

theorem exists_split (h : key ∈ info.keys) :
    ∃ before old after, info.entries = before ++ (key, old) :: after ∧ key ∉ before.map Prod.fst := by
  cases hget : info.get? key with
  | none => exact absurd h (get?_eq_none.mp hget)
  | some old =>
    obtain ⟨before, after, hsplit, hbefore⟩ := get?_eq_some.mp hget
    exact ⟨before, old, after, hsplit, hbefore⟩

theorem keys_insert_of_not_mem (h : key ∉ info.keys) :
    (info.insert key value).keys = info.keys ++ [key] := by
  rw [insert_of_not_mem h, keys, List.map_append]
  rfl

theorem keys_insert_of_mem (h : key ∈ info.keys) : (info.insert key value).keys = info.keys := by
  obtain ⟨before, old, after, hsplit, hbefore⟩ := exists_split h
  rw [insert_of_split hsplit hbefore, keys, keys, hsplit, List.map_append, List.map_append]
  rfl

/-- Where no key stands twice, looking a key up finds the value of its entry. -/
theorem get?_eq_some_of_nodup (h : info.keys.Nodup) : info.get? key = some value ↔ (key, value) ∈ info.entries := by
  rw [get?_eq_some]
  constructor
  · rintro ⟨before, after, hsplit, -⟩
    rw [hsplit]
    exact List.mem_append_right _ List.mem_cons_self
  · intro hmem
    obtain ⟨before, after, hsplit⟩ := List.append_of_mem hmem
    refine ⟨before, after, hsplit, fun hbefore => ?_⟩
    rw [keys, hsplit, List.map_append, List.map_cons] at h
    exact (List.nodup_append.mp h).2.2 key hbefore key List.mem_cons_self rfl

/-- An insert leaves the entries under the other keys. -/
theorem mem_insert (h : info.keys.Nodup) {e : String × String} :
    e ∈ (info.insert key value).entries ↔ e = (key, value) ∨ (e.1 ≠ key ∧ e ∈ info.entries) := by
  by_cases hkey : key ∈ info.keys
  · obtain ⟨before, old, after, hsplit, hbefore⟩ := exists_split hkey
    have hafter : key ∉ after.map Prod.fst := by
      rw [keys, hsplit, List.map_append, List.map_cons] at h
      exact (List.nodup_cons.mp (List.nodup_append.mp h).2.1).1
    rw [insert_of_split hsplit hbefore, hsplit]
    have hne {side : List (String × String)} (hside : key ∉ side.map Prod.fst) (he : e ∈ side) : e.1 ≠ key :=
      fun heq => hside (heq ▸ List.mem_map_of_mem he)
    simp only [List.mem_append, List.mem_cons]
    constructor
    · rintro (he | he | he)
      · exact .inr ⟨hne hbefore he, .inl he⟩
      · exact .inl he
      · exact .inr ⟨hne hafter he, .inr (.inr he)⟩
    · rintro (he | ⟨hnot, he | rfl | he⟩)
      · exact .inr (.inl he)
      · exact .inl he
      · exact absurd rfl hnot
      · exact .inr (.inr he)
  · have hne (he : e ∈ info.entries) : e.1 ≠ key := fun heq => hkey (heq ▸ List.mem_map_of_mem he)
    rw [insert_of_not_mem hkey, List.mem_append, List.mem_singleton, or_comm]
    exact or_congr_right ⟨fun he => ⟨hne he, he⟩, fun he => he.2⟩

/-! ### What the elements of a list tell -/

variable {α : Type} {tells : α → String → String → Prop} {xs ys : List α} {x : α}

/-- Some element tells a value of the key. -/
def Mentions (tells : α → String → String → Prop) (xs : List α) (key : String) : Prop :=
  ∃ x ∈ xs, ∃ value, tells x key value

/-- The last element that mentions the key tells this value. -/
def TellsLast (tells : α → String → String → Prop) (xs : List α) (key value : String) : Prop :=
  ∃ before x after, xs = before ++ x :: after ∧ tells x key value ∧ ¬ Mentions tells after key

/-- The one key is mentioned before the other one is. -/
def TellsBefore (tells : α → String → String → Prop) (xs : List α) (key other : String) : Prop :=
  ∃ before after, xs = before ++ after ∧ Mentions tells before key ∧ ¬ Mentions tells before other ∧
    Mentions tells after other

theorem mentions_append :
    Mentions tells (xs ++ ys) key ↔ Mentions tells xs key ∨ Mentions tells ys key := by
  simp only [Mentions, List.mem_append, or_and_right, exists_or]

theorem mentions_singleton : Mentions tells [x] key ↔ ∃ value, tells x key value := by
  simp only [Mentions, List.mem_singleton, exists_eq_left]

theorem mentions_iff_exists_tellsLast : Mentions tells xs key ↔ ∃ value, TellsLast tells xs key value := by
  constructor
  · intro h
    induction xs with
    | nil => simp [Mentions] at h
    | cons x xs ih =>
      by_cases hlater : Mentions tells xs key
      · obtain ⟨value, before, y, after, rfl, hy, hafter⟩ := ih hlater
        exact ⟨value, x :: before, y, after, rfl, hy, hafter⟩
      · have hparts : Mentions tells ([x] ++ xs) key := h
        obtain ⟨value, hx⟩ := mentions_singleton.mp ((mentions_append.mp hparts).resolve_right hlater)
        exact ⟨value, [], x, xs, rfl, hx, hlater⟩
  · rintro ⟨value, before, x, after, rfl, hx, -⟩
    exact ⟨x, by simp, value, hx⟩

/-- An element that does not mention the key leaves its last value. -/
theorem tellsLast_concat_of_silent (h : ∀ v, ¬ tells x key v) :
    TellsLast tells (xs ++ [x]) key value ↔ TellsLast tells xs key value := by
  constructor
  · rintro ⟨before, y, after, heq, hy, hafter⟩
    rcases cut_of_concat heq with ⟨-, rfl⟩ | ⟨rest, rfl, rfl⟩
    · exact absurd hy (h value)
    · exact ⟨before, y, rest, rfl, hy, fun hrest => hafter (mentions_append.mpr (.inl hrest))⟩
  · rintro ⟨before, y, after, rfl, hy, hafter⟩
    refine ⟨before, y, after ++ [x], by simp, hy, fun hlater => ?_⟩
    rcases mentions_append.mp hlater with hlater | hlater
    · exact hafter hlater
    · obtain ⟨v, hv⟩ := mentions_singleton.mp hlater
      exact h v hv

/-- An element that mentions the key tells its last value. -/
theorem tellsLast_concat_of_tells (h : tells x key value) {v : String} :
    TellsLast tells (xs ++ [x]) key v ↔ tells x key v := by
  constructor
  · rintro ⟨before, y, after, heq, hy, hafter⟩
    rcases cut_of_concat heq with ⟨-, rfl⟩ | ⟨rest, rfl, rfl⟩
    · exact hy
    · exact absurd (mentions_append.mpr (.inr (mentions_singleton.mpr ⟨value, h⟩))) hafter
  · intro hv
    exact ⟨xs, x, [], rfl, hv, by simp [Mentions]⟩

theorem TellsBefore.append (h : TellsBefore tells xs key other) (ys : List α) :
    TellsBefore tells (xs ++ ys) key other := by
  obtain ⟨before, after, rfl, hkey, hnot, hother⟩ := h
  exact ⟨before, after ++ ys, List.append_assoc _ _ _, hkey, hnot, mentions_append.mpr (.inl hother)⟩

/-- Of two keys only one can come before the other. -/
theorem TellsBefore.asymm (h : TellsBefore tells xs key other) : ¬ TellsBefore tells xs other key := by
  rintro ⟨before', after', heq', hother', hnot', -⟩
  obtain ⟨before, after, rfl, hkey, hnot, -⟩ := h
  have hmono {front part : List α} (hfront : front <+: part) {k : String} (hk : Mentions tells front k) :
      Mentions tells part k := by
    obtain ⟨rest, rfl⟩ := hfront
    exact mentions_append.mpr (.inl hk)
  have hprefix' : before' <+: before ++ after := ⟨after', heq'.symm⟩
  rcases List.prefix_or_prefix_of_prefix (List.prefix_append before after) hprefix' with hle | hle
  · exact hnot' (hmono hle hkey)
  · exact hnot (hmono hle hother')

/-! ### Collecting -/

/-- Every key that is mentioned stands once, in the order of the first mentions, with its last value. -/
structure Collects (tells : α → String → String → Prop) (xs : List α) (info : Information) : Prop where
  nodup : info.keys.Nodup
  mem_iff : ∀ key value, (key, value) ∈ info.entries ↔ TellsLast tells xs key value
  order : info.keys.Pairwise (TellsBefore tells xs)

namespace Collects

theorem mem_keys (h : Collects tells xs info) : key ∈ info.keys ↔ Mentions tells xs key := by
  rw [mentions_iff_exists_tellsLast, keys, List.mem_map]
  constructor
  · rintro ⟨e, he, rfl⟩
    exact ⟨e.2, (h.mem_iff _ _).mp he⟩
  · rintro ⟨value, hvalue⟩
    exact ⟨(key, value), (h.mem_iff _ _).mpr hvalue, rfl⟩

/-- Looking a key up finds what was told of it last. -/
theorem get?_eq_some (h : Collects tells xs info) : info.get? key = some value ↔ TellsLast tells xs key value := by
  rw [← h.mem_iff]
  exact get?_eq_some_of_nodup h.nodup

/-- A list determines what is collected from it. -/
theorem eq (h : Collects tells xs info) (h' : Collects tells xs info') : info = info' := by
  have hperm : info.entries.Perm info'.entries := by
    refine (List.perm_ext_iff_of_nodup (List.Nodup.of_map _ h.nodup) (List.Nodup.of_map _ h'.nodup)).mpr fun e => ?_
    rw [h.mem_iff, h'.mem_iff]
  have hentries : info.entries = info'.entries :=
    hperm.eq_of_pairwise (fun _ _ _ _ hab hba => absurd hba hab.asymm) (List.pairwise_map.mp h.order)
      (List.pairwise_map.mp h'.order)
  cases info
  cases info'
  cases hentries
  rfl

theorem nil : Collects tells [] empty where
  nodup := List.nodup_nil
  mem_iff key value := by simp [empty, TellsLast]
  order := List.Pairwise.nil

/-- An element that tells nothing adds nothing. -/
theorem concat_of_silent (h : Collects tells xs info) (hx : ∀ key value, ¬ tells x key value) :
    Collects tells (xs ++ [x]) info where
  nodup := h.nodup
  mem_iff key value := by rw [h.mem_iff, tellsLast_concat_of_silent (hx key)]
  order := h.order.imp fun hbefore => hbefore.append [x]

/-- What an element tells is inserted. -/
theorem concat (h : Collects tells xs info) (hx : ∀ k v, tells x k v ↔ k = key ∧ v = value) :
    Collects tells (xs ++ [x]) (info.insert key value) where
  nodup := by
    by_cases hkey : key ∈ info.keys
    · rw [keys_insert_of_mem hkey]
      exact h.nodup
    · rw [keys_insert_of_not_mem hkey]
      exact List.Nodup.append h.nodup (List.nodup_singleton key) (by simpa using hkey)
  mem_iff k v := by
    rw [mem_insert h.nodup]
    by_cases hk : k = key
    · subst hk
      rw [tellsLast_concat_of_tells ((hx k value).mpr ⟨rfl, rfl⟩), hx]
      simp
    · rw [tellsLast_concat_of_silent fun v hv => hk ((hx k v).mp hv).1, ← h.mem_iff]
      simp [hk]
  order := by
    by_cases hkey : key ∈ info.keys
    · rw [keys_insert_of_mem hkey]
      exact h.order.imp fun hbefore => hbefore.append [x]
    · rw [keys_insert_of_not_mem hkey, List.pairwise_append]
      refine ⟨h.order.imp fun hbefore => hbefore.append [x], List.pairwise_singleton _ _, fun k hk k' hk' => ?_⟩
      rw [List.mem_singleton.mp hk']
      exact ⟨xs, [x], rfl, h.mem_keys.mp hk, fun hmention => hkey (h.mem_keys.mpr hmention),
        mentions_singleton.mpr ⟨value, (hx key value).mpr ⟨rfl, rfl⟩⟩⟩

end Collects

theorem ofList_concat (pairs : List (String × String)) (pair : String × String) :
    ofList (pairs ++ [pair]) = (ofList pairs).insert pair.1 pair.2 := by
  simp only [ofList, insertAll, List.foldl_append, List.foldl_cons, List.foldl_nil]

/-- Inserting what the elements tell one after another collects it. -/
theorem collects_ofList {read : α → Option (String × String)}
    (hread : ∀ x key value, tells x key value ↔ read x = some (key, value)) (xs : List α) :
    Collects tells xs (ofList (xs.filterMap read)) := by
  induction xs using List.reverseRecOn with
  | nil => exact Collects.nil
  | append_singleton xs x ih =>
    rw [List.filterMap_append]
    rcases hx : read x with _ | ⟨key, value⟩
    · rw [List.filterMap_cons_none hx, List.filterMap_nil, List.append_nil]
      refine ih.concat_of_silent fun key value htells => ?_
      rw [hread, hx] at htells
      cases htells
    · rw [List.filterMap_cons_some hx, List.filterMap_nil, ofList_concat]
      refine ih.concat fun k v => ?_
      rw [hread, hx, Option.some.injEq, Prod.mk.injEq, @eq_comm _ key, @eq_comm _ value]

end DriveHealth.Information
