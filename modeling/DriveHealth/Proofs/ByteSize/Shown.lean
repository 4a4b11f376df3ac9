/-
# The sizes that are shown

A size is shown as a decimal and a unit, and such a text denotes a number of bytes (`Shown.ofText?`). Ten times that
number is ten times the size, rounded to a multiple of the unit (`tenfold`). So a size below the first unit is shown
as it is, and any other of up to 53 binary digits is off by a twentieth of its unit at most. All sizes are shown in
their order: each unit is a multiple of the units below it, so no rounding crosses the place where the unit changes.

Key definitions: `ByteSize.Shown`, `ByteSize.Shown.ofText?`, `ByteSize.unitOf`, `ByteSize.shown`, `ByteSize.tenfold`.
Key theorems: `ByteSize.ofText?_text`, `ByteSize.shown_mono`, `ByteSize.abs_tenfold_sub_le`,
`ByteSize.sizes_are_accurate_and_ordered`.
-/
import DriveHealth.Proofs.ByteSize.Rounding
import DriveHealth.Proofs.Numeral.Grouped
import Mathlib.Algebra.Order.Field.Rat
import Mathlib.Tactic.FieldSimp
import Mathlib.Tactic.Linarith

namespace DriveHealth.ByteSize

open Numeral Text

/-! ### What a text denotes -/

/-- A number of units. -/
structure Shown where
  number : ℚ
  /-- In bytes. -/
  unit : Nat

namespace Shown

def bytes (s : Shown) : ℚ := s.number * s.unit

/-- The units by their names. -/
def unitBytes : List (String × Nat) :=
  [("B", 1), ("KB", 1024), ("MB", 1024 ^ 2), ("GB", 1024 ^ 3), ("TB", 1024 ^ 4)]

/-- The number that digits denote, with or without a point and decimal places. -/
def decimal? (s : List Char) : Option ℚ :=
  let whole := s.takeWhile Char.isDigit
  match s.dropWhile Char.isDigit with
  | [] => if IsDigits whole then some (value whole) else none
  | c :: places =>
    if c = '.' ∧ IsDigits whole ∧ IsDigits places then some (value whole + value places / 10 ^ places.length)
    else none

/-- A decimal, a space and the name of a unit. -/
def ofText? (text : String) : Option Shown :=
  let number := text.toList.takeWhile fun c => c ≠ ' '
  let name := (text.toList.dropWhile fun c => c ≠ ' ').drop 1
  (decimal? number).bind fun x => (unitBytes.lookup (String.ofList name)).map fun u => ⟨x, u⟩

end Shown

/-- The unit in which `n` bytes are shown. -/
def unitOf (n : Nat) : Nat :=
  match unit? n with
  | some (unit, _) => unit
  | none => 1

/-- What is shown of a size. -/
def shown (bytes : UInt64) : Shown :=
  let n := round53 bytes.toNat
  ⟨roundDiv (n * 10) (unitOf n) / 10, unitOf n⟩

variable {n m : Nat} {name : String}

/-! ### Reading the text -/

theorem length_toString (h : n < 10) : (toString n).toList.length = 1 := by
  rw [Nat.toString_eq_repr, Nat.toList_repr, Nat.toDigits_of_lt_base h]
  rfl

theorem decimal?_toString (n : Nat) : Shown.decimal? (toString n).toList = some (n : ℚ) := by
  have hdigits := isDigits_toString n
  have htake := takeWhile_run hdigits.2 (stops_nil (p := Char.isDigit))
  have hdrop := dropWhile_run hdigits.2 (stops_nil (p := Char.isDigit))
  rw [List.append_nil] at htake hdrop
  unfold Shown.decimal?
  simp only [htake, hdrop]
  rw [if_pos hdigits, value_toString]

theorem decimal?_tenths (n : Nat) : Shown.decimal? (tenths n).toList = some ((n : ℚ) / 10) := by
  have hwhole := isDigits_toString (n / 10)
  have hplaces := isDigits_toString (n % 10)
  have htext : (tenths n).toList = (toString (n / 10)).toList ++ '.' :: (toString (n % 10)).toList := by
    simp [tenths]
  have hstops : Stops Char.isDigit ('.' :: (toString (n % 10)).toList) := stops_cons.mpr (by decide)
  have hvalue : ((n / 10 : Nat) : ℚ) + ((n % 10 : Nat) : ℚ) / 10 ^ 1 = (n : ℚ) / 10 := by
    have hdiv : ((10 * (n / 10) + n % 10 : Nat) : ℚ) = n := by rw [Nat.div_add_mod]
    push_cast at hdiv
    linarith
  unfold Shown.decimal?
  simp only [htext, takeWhile_run hwhole.2 hstops, dropWhile_run hwhole.2 hstops]
  rw [if_pos ⟨trivial, hwhole, hplaces⟩, value_toString, value_toString, length_toString (Nat.mod_lt n (by decide)),
    hvalue]

theorem space_not_mem_toString (n : Nat) : ' ' ∉ (toString n).toList := by
  intro hspace
  have hdigit := (isDigits_toString n).2 ' ' hspace
  cases hdigit

theorem space_not_mem_tenths (n : Nat) : ' ' ∉ (tenths n).toList := by
  unfold tenths
  simp only [String.toList_append, List.mem_append, not_or]
  exact ⟨⟨space_not_mem_toString _, by decide⟩, space_not_mem_toString _⟩

theorem ofText?_append {number : String} {x : ℚ} {unit : Nat} (hspace : ' ' ∉ number.toList)
    (hnumber : Shown.decimal? number.toList = some x) (hunit : Shown.unitBytes.lookup name = some unit) :
    Shown.ofText? (number ++ " " ++ name) = some ⟨x, unit⟩ := by
  have htext : (number ++ " " ++ name).toList = number.toList ++ ' ' :: name.toList := by simp
  have hrun : ∀ c ∈ number.toList, (decide (c ≠ ' ')) = true := by
    intro c hc
    apply decide_eq_true
    rintro rfl
    exact hspace hc
  have hstops : Stops (fun c => decide (c ≠ ' ')) (' ' :: name.toList) := stops_cons.mpr (by decide)
  unfold Shown.ofText?
  simp only [htext, takeWhile_run hrun hstops, dropWhile_run hrun hstops, hnumber, Option.bind_some,
    List.drop_one, List.tail_cons, String.ofList_toList, hunit, Option.map_some]

/-- The names of the units are those of their sizes. -/
theorem lookup_units : ∀ u ∈ units, Shown.unitBytes.lookup u.2 = some u.1 := by decide

/-- The text of a size denotes what is shown. -/
theorem ofText?_text (b : UInt64) : Shown.ofText? (text b) = some (shown b) := by
  unfold text shown unitOf
  simp only
  cases hunit : unit? (round53 b.toNat) with
  | none =>
    have hnumber : ((roundDiv (round53 b.toNat * 10) 1 : Nat) : ℚ) / 10 = (round53 b.toNat : Nat) := by
      rw [roundDiv_one]
      push_cast
      field_simp
    have hname : toString (round53 b.toNat) ++ " B" = toString (round53 b.toNat) ++ " " ++ "B" := by
      rw [String.append_assoc]
      rfl
    simp only [hnumber, hname]
    exact ofText?_append (space_not_mem_toString _) (decimal?_toString _) rfl
  | some u =>
    have hmem : u ∈ units := List.mem_of_find?_eq_some hunit
    exact ofText?_append (space_not_mem_tenths _) (decimal?_tenths _) (lookup_units u hmem)

/-! ### The order of sizes -/

theorem unitOf_eq (n : Nat) : unitOf n =
    if 0x10000000000 ≤ n then 0x10000000000 else if 0x40000000 ≤ n then 0x40000000
    else if 0x100000 ≤ n then 0x100000 else if 0x400 ≤ n then 0x400 else 1 := by
  unfold unitOf unit? units
  simp only [List.find?_cons, List.find?_nil]
  split_ifs with hTB hGB hMB hKB
  · rw [decide_eq_true hTB]
  · rw [decide_eq_false hTB, decide_eq_true hGB]
  · rw [decide_eq_false hTB, decide_eq_false hGB, decide_eq_true hMB]
  · rw [decide_eq_false hTB, decide_eq_false hGB, decide_eq_false hMB, decide_eq_true hKB]
  · rw [decide_eq_false hTB, decide_eq_false hGB, decide_eq_false hMB, decide_eq_false hKB]

theorem unitOf_pos (n : Nat) : 0 < unitOf n := by
  rw [unitOf_eq]
  split_ifs <;> decide

theorem unitOf_of_lt (h : n < 1024) : unitOf n = 1 := by
  rw [unitOf_eq]
  split_ifs <;> omega

/-- A size in a larger unit reaches that unit, and the larger unit is a multiple of the smaller one. -/
theorem unitOf_cases (h : n ≤ m) :
    unitOf n = unitOf m ∨ n ≤ unitOf m ∧ unitOf m ≤ m ∧ unitOf n ∣ unitOf m := by
  rw [unitOf_eq, unitOf_eq]
  split_ifs <;> omega

/-- Ten times the bytes that are shown of `n` bytes. -/
def tenfold (n : Nat) : Nat := roundTo (unitOf n) (n * 10)

theorem tenfold_mono (h : n ≤ m) : tenfold n ≤ tenfold m := by
  unfold tenfold
  rcases unitOf_cases h with hunit | ⟨hn, hm, hdvd⟩
  · rw [hunit]
    exact roundTo_mono (unitOf_pos m) (Nat.mul_le_mul_right 10 h)
  · calc roundTo (unitOf n) (n * 10) ≤ unitOf m * 10 :=
          roundTo_le (unitOf_pos n) (Nat.dvd_mul_right_of_dvd hdvd 10) (Nat.mul_le_mul_right 10 hn)
      _ ≤ roundTo (unitOf m) (m * 10) :=
          le_roundTo (unitOf_pos m) (Nat.dvd_mul_right _ 10) (Nat.mul_le_mul_right 10 hm)

theorem bytes_shown (b : UInt64) : (shown b).bytes = (tenfold (round53 b.toNat) : ℚ) / 10 := by
  unfold shown Shown.bytes tenfold roundTo
  push_cast
  ring

/-- What is shown is in the order of the sizes. -/
theorem shown_mono {a b : UInt64} (h : a ≤ b) : (shown a).bytes ≤ (shown b).bytes := by
  have htenfold : tenfold (round53 a.toNat) ≤ tenfold (round53 b.toNat) :=
    tenfold_mono (round53_mono (UInt64.le_iff_toNat_le.mp h))
  have hcast : (tenfold (round53 a.toNat) : ℚ) ≤ tenfold (round53 b.toNat) := by exact_mod_cast htenfold
  rw [bytes_shown, bytes_shown]
  linarith

/-! ### The error -/

/-- What is shown is off by a twentieth of the unit at most. -/
theorem abs_tenfold_sub_le (n : Nat) : |(tenfold n : ℚ) / 10 - n| ≤ (unitOf n : ℚ) / 20 := by
  have hlow : ((2 * (n * 10) : Nat) : ℚ) ≤ (2 * tenfold n + unitOf n : Nat) := by
    exact_mod_cast le_roundDiv (unitOf_pos n) (n * 10)
  have hhigh : ((2 * tenfold n : Nat) : ℚ) ≤ (2 * (n * 10) + unitOf n : Nat) := by
    exact_mod_cast roundDiv_le (n * 10) (unitOf n)
  push_cast at hlow hhigh
  rw [abs_le]
  constructor <;> linarith

theorem tenfold_of_lt (h : n < 1024) : tenfold n = n * 10 := by
  unfold tenfold roundTo
  rw [unitOf_of_lt h, roundDiv_one, Nat.mul_one]

theorem text_of_lt {b : UInt64} (h : b.toNat < 1024) : text b = toString b.toNat ++ " B" := by
  have hleast : ∀ u ∈ units, 1024 ≤ u.1 := by decide
  have hunit : unit? b.toNat = none := by
    apply List.find?_eq_none.mpr
    intro u hu hle
    have hlarge := hleast u hu
    have hreached := of_decide_eq_true hle
    omega
  unfold text
  simp only [round53_eq_self (show b.toNat < 2 ^ 53 by omega), hunit]

/-- **Sizes are shown accurately and in their order.** The text of every size denotes a number of bytes. A larger size
never denotes fewer bytes, across units and beyond 53 binary digits too. A size of up to 53 binary digits is shown as it
is when it is below the first unit, and is off by at most a twentieth of its unit otherwise. -/
theorem sizes_are_accurate_and_ordered :
    (∀ b, Shown.ofText? (text b) = some (shown b)) ∧
    (∀ a b, a ≤ b → (shown a).bytes ≤ (shown b).bytes) ∧
    ∀ b : UInt64, b.toNat < 2 ^ 53 →
      (b.toNat < 1024 → text b = toString b.toNat ++ " B" ∧ (shown b).bytes = b.toNat) ∧
      (1024 ≤ b.toNat → |(shown b).bytes - b.toNat| ≤ (shown b).unit / 20) := by
  refine ⟨ofText?_text, fun a b h => shown_mono h, fun b hb => ?_⟩
  rw [bytes_shown]
  unfold shown
  simp only
  rw [round53_eq_self hb]
  refine ⟨fun hlt => ⟨text_of_lt hlt, ?_⟩, fun _ => abs_tenfold_sub_le _⟩
  rw [tenfold_of_lt hlt]
  push_cast
  field_simp

/-- A tie between two tenths, a size just below a unit, and the largest size. -/
example : text 1280 = "1.2 KB" ∧ text 1048575 = "1024.0 KB" ∧ text 0xFFFFFFFFFFFFFFFF = "16777216.0 TB" := by
  decide +kernel

end DriveHealth.ByteSize
