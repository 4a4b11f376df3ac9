/-
# Rounding to the nearest

A quotient that is rounded to the nearest number is off by half the divisor at most (`le_roundDiv`, `roundDiv_le`).
That alone makes rounding keep the order: two quotients that were rounded the wrong way round would have to be equal.
A number that is rounded to a multiple of a step does not cross any multiple of it, so the order is kept also where the
step changes, as long as it changes at a multiple of both steps. Rounding to 53 binary digits is of that kind, since
its step doubles at powers of two.

Key definitions: `ByteSize.roundTo`, `ByteSize.step53`.
Key theorems: `ByteSize.roundDiv_mono`, `ByteSize.roundDiv_lt_iff`, `ByteSize.roundTo_mono`, `ByteSize.roundTo_le`,
`ByteSize.le_roundTo`, `ByteSize.round53_eq_self`, `ByteSize.round53_mono`.
-/
import DriveHealth.ByteSize
import Mathlib.Algebra.Order.Group.Nat
import Mathlib.Tactic.Ring

namespace DriveHealth.ByteSize

/-- The nearest multiple of the step, of two equally near ones the even multiple. -/
def roundTo (step n : Nat) : Nat := roundDiv n step * step

variable {n m d k step c : Nat}

/-! ### Quotients -/

/-- A rounded quotient is at most half too small. -/
theorem le_roundDiv (hd : 0 < d) (n : Nat) : 2 * n ≤ 2 * (roundDiv n d * d) + d := by
  have hdiv := Nat.div_add_mod' n d
  have hmod := Nat.mod_lt n hd
  unfold roundDiv
  simp only
  split_ifs
  · omega
  · rw [Nat.add_mul]
    omega
  · omega
  · rw [Nat.add_mul]
    omega

/-- A rounded quotient is at most half too large. -/
theorem roundDiv_le (n d : Nat) : 2 * (roundDiv n d * d) ≤ 2 * n + d := by
  have hdiv := Nat.div_add_mod' n d
  unfold roundDiv
  simp only
  split_ifs
  · omega
  · rw [Nat.add_mul]
    omega
  · omega
  · rw [Nat.add_mul]
    omega

theorem roundDiv_mul (hd : 0 < d) (k : Nat) : roundDiv (k * d) d = k := by
  unfold roundDiv
  simp [hd]

theorem roundDiv_one (n : Nat) : roundDiv n 1 = n := by
  simpa using roundDiv_mul Nat.one_pos n

/-- Rounding keeps the order. -/
theorem roundDiv_mono (hd : 0 < d) (h : n ≤ m) : roundDiv n d ≤ roundDiv m d := by
  by_contra hlt
  have hstep : (roundDiv m d + 1) * d ≤ roundDiv n d * d := Nat.mul_le_mul_right d (by omega)
  rw [Nat.add_mul] at hstep
  have hhigh := roundDiv_le n d
  have hlow := le_roundDiv hd m
  -- both errors are half the divisor, so the two numbers are one
  obtain rfl : n = m := by omega
  exact hlt (Nat.le_refl _)

/-- A tie goes to the even neighbour. -/
theorem roundDiv_of_tie (hd : 0 < d) (hk : k % 2 = 0) (h : 2 * n + d = 2 * (k * d)) : roundDiv n d = k := by
  obtain ⟨j, rfl⟩ : ∃ j, k = j + 1 := by
    apply Nat.exists_eq_succ_of_ne_zero
    rintro rfl
    omega
  rw [Nat.add_mul] at h
  have hdiv : n / d = j := by
    apply Nat.div_eq_of_lt_le
    · omega
    · rw [Nat.add_mul]
      omega
  have hmod := Nat.div_add_mod' n d
  rw [hdiv] at hmod
  unfold roundDiv
  simp only [hdiv]
  split_ifs <;> omega

/-- A quotient is rounded to a number below the even number `k` just when it is more than a half below it. -/
theorem roundDiv_lt_iff (hd : 0 < d) (hk : k % 2 = 0) : roundDiv n d < k ↔ 2 * n + d < 2 * (k * d) := by
  constructor
  · intro hlt
    have hlow := le_roundDiv hd n
    have hstep : (roundDiv n d + 1) * d ≤ k * d := Nat.mul_le_mul_right d hlt
    rw [Nat.add_mul] at hstep
    have hne : 2 * n + d ≠ 2 * (k * d) := fun htie => by
      rw [roundDiv_of_tie hd hk htie] at hlt
      omega
    omega
  · intro hlt
    have hhigh := roundDiv_le n d
    have hmul : roundDiv n d * d < k * d := by omega
    exact Nat.lt_of_mul_lt_mul_right hmul

/-! ### Multiples of a step -/

theorem roundTo_mono (hstep : 0 < step) (h : n ≤ m) : roundTo step n ≤ roundTo step m :=
  Nat.mul_le_mul_right step (roundDiv_mono hstep h)

theorem roundTo_of_dvd (hstep : 0 < step) (h : step ∣ n) : roundTo step n = n := by
  obtain ⟨k, rfl⟩ := h
  unfold roundTo
  rw [Nat.mul_comm step k, roundDiv_mul hstep]

/-- Rounding up does not cross a multiple of the step. -/
theorem roundTo_le (hstep : 0 < step) (hc : step ∣ c) (h : n ≤ c) : roundTo step n ≤ c :=
  calc roundTo step n ≤ roundTo step c := roundTo_mono hstep h
    _ = c := roundTo_of_dvd hstep hc

/-- Rounding down does not cross a multiple of the step. -/
theorem le_roundTo (hstep : 0 < step) (hc : step ∣ c) (h : c ≤ n) : c ≤ roundTo step n :=
  calc c = roundTo step c := (roundTo_of_dvd hstep hc).symm
    _ ≤ roundTo step n := roundTo_mono hstep h

/-! ### 53 binary digits -/

/-- The step in which numbers with as many binary digits as `n` are rounded. -/
def step53 (n : Nat) : Nat := 2 ^ (n.log2 - 52)

theorem round53_eq (n : Nat) : round53 n = roundTo (step53 n) n := by
  unfold round53 roundTo step53
  rw [Nat.one_shiftLeft]

theorem step53_pos (n : Nat) : 0 < step53 n := Nat.two_pow_pos _

theorem step53_dvd (h : n.log2 ≤ k) : step53 n ∣ 2 ^ k := Nat.pow_dvd_pow 2 (by omega)

/-- A number of 53 binary digits is not changed. -/
theorem round53_eq_self (h : n < 2 ^ 53) : round53 n = n := by
  have hlog : n.log2 - 52 = 0 := by
    by_cases hn : n = 0
    · simp [hn]
    · have := (Nat.log2_lt hn).mpr h
      omega
  rw [round53_eq, step53, hlog, pow_zero, roundTo, roundDiv_one, Nat.mul_one]

/-- A power of two has one binary digit that is not zero. -/
theorem round53_two_pow (k : Nat) : round53 (2 ^ k) = 2 ^ k := by
  have hlog : (2 ^ k).log2 ≤ k := Nat.log2_two_pow.le
  rw [round53_eq, roundTo_of_dvd (step53_pos _) (step53_dvd hlog)]

theorem log2_mono (h : n ≤ m) : n.log2 ≤ m.log2 := by
  by_cases hn : n = 0
  · simp [hn]
  · exact (Nat.le_log2 (by omega)).mpr ((Nat.log2_self_le hn).trans h)

/-- Rounding to 53 binary digits keeps the order. -/
theorem round53_mono (h : n ≤ m) : round53 n ≤ round53 m := by
  rw [round53_eq, round53_eq]
  by_cases hlog : n.log2 < m.log2
  · -- the least number with as many digits as `m` lies between
    have hn : n ≤ 2 ^ m.log2 := Nat.lt_log2_self.le.trans (Nat.pow_le_pow_right (by decide) hlog)
    have hm : 2 ^ m.log2 ≤ m := by
      apply Nat.log2_self_le
      rintro rfl
      simp at hlog
    calc roundTo (step53 n) n ≤ 2 ^ m.log2 := roundTo_le (step53_pos n) (step53_dvd hlog.le) hn
      _ ≤ roundTo (step53 m) m := le_roundTo (step53_pos m) (step53_dvd (Nat.le_refl _)) hm
  · have hstep : step53 n = step53 m := by
      unfold step53
      rw [Nat.le_antisymm (log2_mono h) (Nat.le_of_not_lt hlog)]
    rw [hstep]
    exact roundTo_mono (step53_pos m) h

end DriveHealth.ByteSize
