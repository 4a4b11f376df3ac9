/-
# Counters of bad sectors

Two rows count bad sectors, those that were reallocated and those that are pending. A raw value may start
with a count of any length, in plain digits or in groups. A count of at most 63 bits adds to the number of
bad sectors, so that a drive is good only if the other counter outweighs it with a minus, or if the two are
too much for 63 bits and their sum wraps around. A longer count is not read, and the drive is judged as if
the row said zero.

Key definitions: `Health.FirstCounts`.
Key theorems: `Health.rawOf_of_firstCounts`, `Health.badSectors_nonpos_iff`, `Health.counter_noticed`.
-/
import DriveHealth.Proofs.Health.Verdicts
import DriveHealth.Proofs.Numeral.Grouped

namespace DriveHealth.Health

open Numeral (CountsTo maxSigned64)

/-- The raw value of the first row with this id starts with a count of `n`. -/
def FirstCounts (table : List Attribute) (id n : Nat) : Prop :=
  ∃ a, table.find? (fun a => a.id = id) = some a ∧ CountsTo a.rawValue.toList n

/-- The ids of the two counters, each with the other one. -/
def IsCounterPair (id other : Nat) : Prop := (id = 5 ∧ other = 197) ∨ (id = 197 ∧ other = 5)

variable {table : List Attribute} {lines : List String} {size : UInt64} {id other n : Nat}

/-- What a count adds to the bad sectors: nothing beyond 63 bits. -/
theorem rawOf_of_firstCounts (h : FirstCounts table id n) :
    rawOf id table = if n ≤ maxSigned64 then (n : Int) else 0 := by
  obtain ⟨a, hfind, hcount⟩ := h
  have hraw : a.rawNumber = if n ≤ maxSigned64 then (n : Int) else 0 := by
    rw [Attribute.rawNumber, Numeral.leadingInt_of_countsTo hcount]
    split <;> rfl
  rw [rawOf, hfind, Option.map_some, Option.getD_some, hraw]

/-- A raw number has 63 bits and a sign. -/
theorem rawOf_bounds (id : Nat) (table : List Attribute) :
    -(maxSigned64 : Int) ≤ rawOf id table ∧ rawOf id table ≤ maxSigned64 := by
  have hzero : -(maxSigned64 : Int) ≤ 0 ∧ (0 : Int) ≤ maxSigned64 := by decide
  rcases hfind : table.find? (fun a => a.id = id) with _ | a
  · rwa [rawOf, hfind]
  rw [rawOf, hfind, Option.map_some, Option.getD_some, Attribute.rawNumber]
  rcases hread : Numeral.leadingInt a.rawValue.toList with _ | i
  · exact hzero
  · exact Numeral.leadingInt_bounds hread

theorem badSectors_eq (h : IsCounterPair id other) :
    badSectors table = (rawOf id table + rawOf other table).bmod Int64.size := by
  rw [badSectors_eq_bmod]
  rcases h with ⟨rfl, rfl⟩ | ⟨rfl, rfl⟩
  · rfl
  · rw [Int.add_comm]

/-- Of two counters that are not both negative, the bad sectors come to nothing when the sum does, or when it
exceeds 63 bits: then it wraps around to a negative number. -/
theorem badSectors_nonpos_iff (hpair : IsCounterPair id other) (hcount : 0 ≤ rawOf id table) :
    badSectors table ≤ 0 ↔
      rawOf id table + rawOf other table ≤ 0 ∨ maxSigned64 < rawOf id table + rawOf other table := by
  obtain ⟨-, hhigh⟩ := rawOf_bounds id table
  obtain ⟨hlow, hhigh'⟩ := rawOf_bounds other table
  rw [badSectors_eq hpair, Int.bmod_def, Int64.size]
  unfold maxSigned64 at *
  split <;> omega

/-- A largest number and one more sector. -/
example : badSectors (Attribute.table
    ["  5 Reallocated_Sector_Ct   -O--CK   100   100   000    -    9223372036854775807",
      "197 Current_Pending_Sector  -O--CK   200   200   000    -    1"]) = -0x8000000000000000 := by
  decide +kernel

theorem firstCounts_of_digits {digits : List Char} (hdigits : Numeral.IsDigits digits)
    (h : (table.find? fun a => a.id = id).map (fun a => a.rawValue.toList) = some digits) :
    FirstCounts table id (Numeral.value digits) := by
  obtain ⟨a, hfind, rfl⟩ := Option.map_eq_some_iff.mp h
  exact ⟨a, hfind, Numeral.countsTo_of_isDigits hdigits⟩

theorem ne_nil_of_firstCounts (h : FirstCounts table id n) : table ≠ [] := by
  rintro rfl
  obtain ⟨a, hfind, -⟩ := h
  cases hfind

/-- **A count of bad sectors is noticed unless it is lost, outweighed or carried too far.** Where the first row
of a counter starts with a count, take the sum of the count, or of zero if it exceeds 63 bits, and the other
counter. The drive is good just when no row is flagged and the sum is not positive or exceeds 63 bits. So a
positive count of at most 63 bits beside another counter without a minus never is on a good drive, as long as
the two together have at most 63 bits. A longer count says nothing at all, and two counters that are too much
together say nothing either. -/
theorem counter_noticed (rows lines : List String) (size : UInt64) (id other n : Nat)
    (hpair : IsCounterPair id other) (hcount : FirstCounts (Attribute.table rows) id n) :
    let table := Attribute.table rows
    let sum := (if n ≤ maxSigned64 then (n : Int) else 0) + rawOf other table
    (evaluate table lines size = .good ↔ (∀ a ∈ table, ¬ a.Flagged) ∧ (sum ≤ 0 ∨ maxSigned64 < sum)) ∧
    (0 < n → n ≤ maxSigned64 → 0 ≤ rawOf other table → n + rawOf other table ≤ maxSigned64 →
      evaluate table lines size ≠ .good) ∧
    (maxSigned64 < n → rawOf other table ≤ 0 → (∀ a ∈ table, ¬ a.Flagged) →
      evaluate table lines size = .good) ∧
    (n ≤ maxSigned64 → maxSigned64 < n + rawOf other table → (∀ a ∈ table, ¬ a.Flagged) →
      evaluate table lines size = .good) := by
  intro table sum
  have hraw : rawOf id table = if n ≤ maxSigned64 then (n : Int) else 0 := rawOf_of_firstCounts hcount
  have hgood : evaluate table lines size = .good ↔
      (∀ a ∈ table, ¬ a.Flagged) ∧ (sum ≤ 0 ∨ maxSigned64 < sum) := by
    have hnonneg : 0 ≤ rawOf id table := by
      rw [hraw]
      split <;> omega
    rw [evaluate_eq_good (fun _ => Attribute.verdict_of_mem_table) (ne_nil_of_firstCounts hcount),
      badSectors_nonpos_iff hpair hnonneg, hraw]
  refine ⟨hgood, fun hpos hlimit hother hfits h => ?_, fun hlimit hother hrows => hgood.mpr ⟨hrows, .inl ?_⟩,
    fun hlimit hcarried hrows => hgood.mpr ⟨hrows, .inr ?_⟩⟩
  · have hsum := (hgood.mp h).2
    simp only [sum, if_pos hlimit] at hsum
    omega
  · simp only [sum, if_neg (Nat.not_le.mpr hlimit)]
    omega
  · simpa only [sum, if_pos hlimit] using hcarried

theorem pending_sectors_noticed :
    let rows := ["197 Current_Pending_Sector  -O--CK   200   200   000    -    4"]
    IsCounterPair 197 5 ∧ FirstCounts (Attribute.table rows) 197 4 ∧
      evaluate (Attribute.table rows) [] 1000204886016 ≠ .good := by
  intro rows
  obtain ⟨hraw, hother, hfits⟩ :
      ((Attribute.table rows).find? fun a => a.id = 197).map (fun a => a.rawValue.toList) = some ['4'] ∧
      0 ≤ rawOf 5 (Attribute.table rows) ∧ (4 : Nat) + rawOf 5 (Attribute.table rows) ≤ maxSigned64 := by
    decide +kernel
  have hcount : FirstCounts (Attribute.table rows) 197 4 := firstCounts_of_digits (by decide) hraw
  have hpair : IsCounterPair 197 5 := .inr ⟨rfl, rfl⟩
  exact ⟨hpair, hcount,
    (counter_noticed rows [] 1000204886016 197 5 4 hpair hcount).2.1 (by decide) (by decide) hother hfits⟩

/-- The raw value of all ones is a count of 64 bits, and a drive that shows it for its reallocated sectors
is good. -/
theorem count_of_all_ones_not_noticed :
    let rows := ["  5 Reallocated_Sector_Ct   -O--CK   100   100   000    -    18446744073709551615"]
    FirstCounts (Attribute.table rows) 5 18446744073709551615 ∧
      evaluate (Attribute.table rows) [] 1000204886016 = .good := by
  intro rows
  obtain ⟨hraw, hrows, hsectors⟩ :
      ((Attribute.table rows).find? fun a => a.id = 5).map (fun a => a.rawValue.toList) =
        some "18446744073709551615".toList ∧
      (∀ a ∈ Attribute.table rows, ¬ a.Flagged) ∧ badSectors (Attribute.table rows) ≤ 0 := by decide +kernel
  have hcount : FirstCounts (Attribute.table rows) 5 18446744073709551615 :=
    firstCounts_of_digits (by decide) hraw
  refine ⟨hcount, ?_⟩
  rw [evaluate_eq_good (fun _ => Attribute.verdict_of_mem_table) (ne_nil_of_firstCounts hcount)]
  exact ⟨hrows, hsectors⟩

end DriveHealth.Health
