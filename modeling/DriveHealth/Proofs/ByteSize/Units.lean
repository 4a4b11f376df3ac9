/-
# The unit of a size

The unit is chosen first and the number is rounded afterwards, so the two can disagree. A size reaches the unit it is
shown in, and its number is never below 1.0. It does not reach the next unit, but its number may: the sizes in the last
twentieth of a unit below the next one are shown as 1024.0 (`number_lt_iff`), where the next unit would show them as 1.0
(`number_in_next_unit`).

Key definitions: `ByteSize.Shown.HasLargerUnit`.
Key theorems: `ByteSize.unitOf_round53`, `ByteSize.number_lt_iff`, `ByteSize.number_full_below_next_unit`,
`ByteSize.largest_KB_shown_as_1024`.
-/
import DriveHealth.Proofs.ByteSize.Shown

namespace DriveHealth.ByteSize

/-- It is shown in a unit larger than a byte that a larger one follows. -/
def Shown.HasLargerUnit (s : Shown) : Prop := s.unit = 1024 ∨ s.unit = 1024 ^ 2 ∨ s.unit = 1024 ^ 3

variable {n : Nat}

/-! ### The unit -/

/-- The unit is that of the size itself: only sizes far above the largest unit have more than 53 binary digits. -/
theorem unitOf_round53 (n : Nat) : unitOf (round53 n) = unitOf n := by
  by_cases h : n < 2 ^ 53
  · rw [round53_eq_self h]
  · have hround : 2 ^ 53 ≤ round53 n :=
      calc 2 ^ 53 = round53 (2 ^ 53) := (round53_two_pow 53).symm
        _ ≤ round53 n := round53_mono (Nat.le_of_not_lt h)
    rw [unitOf_eq, unitOf_eq, if_pos (by omega), if_pos (by omega)]

/-- A size reaches its unit, and none of the larger ones. -/
theorem unitOf_range (n : Nat) :
    (unitOf n = 1 ∧ n < 1024) ∨
    ((unitOf n = 1024 ∨ unitOf n = 1024 ^ 2 ∨ unitOf n = 1024 ^ 3) ∧ unitOf n ≤ n ∧ n < 1024 * unitOf n) ∨
    (unitOf n = 1024 ^ 4 ∧ unitOf n ≤ n) := by
  rw [unitOf_eq]
  split_ifs <;> omega

theorem unitOf_le (h : unitOf n ≠ 1) : unitOf n ≤ n := by
  have hrange := unitOf_range n
  omega

/-- A size below the largest unit has 53 binary digits at most. -/
theorem round53_of_lt_largest (h : n < 1024 * 1024 ^ 3) : round53 n = n := by
  apply round53_eq_self
  omega

/-! ### The number, in tenths -/

/-- A size that reaches its unit is at least ten tenths of it. -/
theorem ten_le_number (h : unitOf n ≤ n) : 10 ≤ roundDiv (n * 10) (unitOf n) :=
  calc 10 = roundDiv (10 * unitOf n) (unitOf n) := (roundDiv_mul (unitOf_pos n) 10).symm
    _ ≤ roundDiv (n * 10) (unitOf n) := roundDiv_mono (unitOf_pos n) (by omega)

theorem number_le (h : n < 1024 * unitOf n) : roundDiv (n * 10) (unitOf n) ≤ 10240 :=
  calc roundDiv (n * 10) (unitOf n) ≤ roundDiv (10240 * unitOf n) (unitOf n) :=
        roundDiv_mono (unitOf_pos n) (by omega)
    _ = 10240 := roundDiv_mul (unitOf_pos n) 10240

/-- The number stays below 1024 just when the size is more than a twentieth of its unit below 1024 of them. -/
theorem number_lt_iff (n : Nat) : roundDiv (n * 10) (unitOf n) < 10240 ↔ 20 * n < 20479 * unitOf n := by
  rw [roundDiv_lt_iff (unitOf_pos n) (by decide)]
  omega

/-- A size whose number is full is nearest to 1.0 in the next unit. -/
theorem number_in_next_unit (h : n < 1024 * unitOf n) (hfull : 20479 * unitOf n ≤ 20 * n) :
    roundDiv (n * 10) (1024 * unitOf n) = 10 := by
  have hpos : 0 < 1024 * unitOf n := Nat.mul_pos (by decide) (unitOf_pos n)
  have hhigh : roundDiv (n * 10) (1024 * unitOf n) ≤ 10 :=
    calc roundDiv (n * 10) (1024 * unitOf n) ≤ roundDiv (10 * (1024 * unitOf n)) (1024 * unitOf n) :=
          roundDiv_mono hpos (by omega)
      _ = 10 := roundDiv_mul hpos 10
  have hlow : ¬ roundDiv (n * 10) (1024 * unitOf n) < 10 := by
    rw [roundDiv_lt_iff hpos (by decide)]
    omega
  omega

/-! ### What is shown -/

theorem one_le_number {b : UInt64} (h : (shown b).unit ≠ 1) : 1 ≤ (shown b).number := by
  have hten : ((10 : Nat) : ℚ) ≤ roundDiv (round53 b.toNat * 10) (unitOf (round53 b.toNat)) := by
    exact_mod_cast ten_le_number (unitOf_le h)
  unfold shown
  push_cast at hten
  linarith

/-- **The number is at least 1.0, but it can be full.** The text of every size denotes a number of units. A size
below 1024 is shown in bytes. Any other size reaches its unit and is shown as at least 1.0 of it. Where a larger unit
follows, the size does not reach that one, but the number stays below 1024.0 only for sizes that are more than a
twentieth of the unit below it; the others are shown as 1024.0, where the larger unit would show them as 1.0. -/
theorem number_full_below_next_unit (b : UInt64) :
    Shown.ofText? (text b) = some (shown b) ∧
    (((shown b).unit = 1 ∧ b.toNat < 1024) ∨
      ((shown b).HasLargerUnit ∧ (shown b).unit ≤ b.toNat ∧ b.toNat < 1024 * (shown b).unit ∧
        1 ≤ (shown b).number ∧ ((shown b).number < 1024 ↔ 20 * b.toNat < 20479 * (shown b).unit) ∧
        ((shown b).number = 1024 ↔ 20479 * (shown b).unit ≤ 20 * b.toNat) ∧
        (20479 * (shown b).unit ≤ 20 * b.toNat → roundDiv (b.toNat * 10) (1024 * (shown b).unit) = 10)) ∨
      ((shown b).unit = 1024 ^ 4 ∧ (shown b).unit ≤ b.toNat ∧ 1 ≤ (shown b).number)) := by
  refine ⟨ofText?_text b, ?_⟩
  have hunit : (shown b).unit = unitOf b.toNat := unitOf_round53 b.toNat
  rw [hunit]
  rcases unitOf_range b.toNat with hbyte | ⟨hmiddle, hle, hlt⟩ | ⟨hlargest, hle⟩
  · exact .inl hbyte
  · have hround : round53 b.toNat = b.toNat := round53_of_lt_largest (by omega)
    have hone : 1 ≤ (shown b).number := one_le_number (by omega)
    have hnumber : (shown b).number = (roundDiv (b.toNat * 10) (unitOf b.toNat) : ℚ) / 10 := by
      unfold shown
      simp only [hround]
    have hfull : ((roundDiv (b.toNat * 10) (unitOf b.toNat) : Nat) : ℚ) ≤ (10240 : Nat) := by
      exact_mod_cast number_le hlt
    have hlarger : (shown b).HasLargerUnit := by
      unfold Shown.HasLargerUnit
      rw [hunit]
      exact hmiddle
    have hbelow : (shown b).number < 1024 ↔ 20 * b.toNat < 20479 * unitOf b.toNat := by
      rw [← number_lt_iff, hnumber, ← Nat.cast_lt (α := ℚ), div_lt_iff₀ (by norm_num)]
      norm_num
    refine .inr (.inl ⟨hlarger, hle, hlt, hone, hbelow, ?_, number_in_next_unit hlt⟩)
    rw [← Nat.not_lt, ← hbelow, not_lt]
    constructor
    · intro heq
      exact heq.ge
    · intro hge
      push_cast at hfull
      linarith
  · exact .inr (.inr ⟨hlargest, hle, one_le_number (by omega)⟩)

/-- One byte below a megabyte is shown as 1024.0 kilobytes. -/
theorem largest_KB_shown_as_1024 : ¬ ∀ b s, Shown.ofText? (text b) = some s →
    (s.HasLargerUnit → 1 ≤ s.number ∧ s.number < 1024) ∧ (s.unit = 1024 ^ 4 → 1 ≤ s.number) := by
  intro hbelow
  have hshown : shown 1048575 = ⟨1024, 1024⟩ := by
    have hunit : unitOf (round53 (1048575 : UInt64).toNat) = 1024 := by decide +kernel
    have hnumber : roundDiv (round53 (1048575 : UInt64).toNat * 10) 1024 = 10240 := by decide +kernel
    unfold shown
    simp only [hunit, hnumber]
    norm_num
  have hlt := ((hbelow 1048575 ⟨1024, 1024⟩ (hshown ▸ ofText?_text 1048575)).1 (.inl rfl)).2
  norm_num at hlt

end DriveHealth.ByteSize
