/-
# Small letters, and text with case not counted

No small form brings in a character below the letters, so that a text without spaces or colons has none in
small letters either, and blanks stay what they are.

A pattern of ASCII characters is found at the start of a text, case not counted, just when the text starts with a
form of it: each character of the pattern as its small or its capital letter, an s also as the long s and a k also
as the Kelvin sign.

Key definitions: `Text.forms`, `Text.IsForm`.
Key theorems: `Text.eq_of_mem_lowerChar`, `Text.mem_of_mem_lower`, `Text.lower_of_isBlanks`,
`Text.foldCase_eq_iff`, `Text.foldPrefix?_eq_some`.
-/
import DriveHealth.Proofs.Text.Cells
import DriveHealth.Text.Lower

namespace DriveHealth.Text

/-- The forms of an ASCII character when case does not count. -/
def forms (p : Char) : List Char :=
  [p.toLower, p.toUpper] ++
    if p.toLower = 's' then ['\u017F'] else if p.toLower = 'k' then ['\u212A'] else []

/-- The text has the pattern's characters, each in one of its forms. -/
def IsForm (pattern s : List Char) : Prop := List.Forall₂ (fun p c => c ∈ forms p) pattern s

variable {p c d : Char} {pattern s rest : List Char}

/-! ### Small forms -/

/-- The character with this number, unless there is none. -/
theorem toNat_ofNat_of_ne_zero {n : Nat} (h : (Char.ofNat n).toNat ≠ 0) : (Char.ofNat n).toNat = n := by
  by_cases hn : n.isValidChar
  · have hchar : Char.ofNat n = Char.ofNatAux n hn := dif_pos hn
    exact congrArg Char.toNat hchar
  · have hzero : Char.ofNat n = '\x00' := dif_neg hn
    exact absurd (congrArg Char.toNat hzero) h

/-- The ASCII capitals have their small letters above them. -/
theorem toLower_below_letters : ∀ n ∈ List.range 128,
    (Char.ofNat n).toLower.toNat < 0x41 → (Char.ofNat n).toLower = Char.ofNat n := by
  decide +kernel

/-- The other capitals have their small letters among the letters too. -/
theorem letter_le_of_mem_capitals : ∀ run ∈ capitals, (0x41 : Int) ≤ run.1 + run.2.2.2 := by
  decide +kernel

/-- A character below the letters is the small form of itself alone. -/
theorem eq_of_mem_lowerChar (h : c ∈ lowerChar d) (hpos : c.toNat ≠ 0) (hlow : c.toNat < 0x41) : c = d := by
  unfold lowerChar at h
  split at h
  · rename_i hascii
    obtain rfl := List.mem_singleton.mp h
    have hself := toLower_below_letters d.toNat (List.mem_range.mpr hascii)
    rw [Char.ofNat_toNat] at hself
    exact hself hlow
  split at h
  · rcases List.mem_pair.mp h with rfl | rfl <;> exact absurd hlow (by decide)
  split at h
  · rename_i low high step shift hfind
    obtain rfl := List.mem_singleton.mp h
    have hle : low ≤ d.toNat := by
      have hrun := List.find?_some hfind
      simp only [Bool.and_eq_true, decide_eq_true_eq] at hrun
      exact hrun.1.1
    have hletter := letter_le_of_mem_capitals _ (List.mem_of_find?_eq_some hfind)
    rw [toNat_ofNat_of_ne_zero hpos] at hlow
    dsimp only at hletter
    omega
  · exact List.mem_singleton.mp h

theorem mem_of_mem_lower (h : c ∈ lower s) (hpos : c.toNat ≠ 0) (hlow : c.toNat < 0x41) : c ∈ s := by
  obtain ⟨d, hd, hc⟩ := List.mem_flatMap.mp h
  rwa [eq_of_mem_lowerChar hc hpos hlow]

/-- No blank is a capital. -/
theorem lower_of_isBlanks (h : IsBlanks s) : lower s = s := by
  have hall : (blanks.all fun b => lowerChar b = [b]) = true := by decide +kernel
  induction s with
  | nil => rfl
  | cons c s ih =>
    obtain ⟨hc, hs⟩ := isBlanks_cons.mp h
    have hself : lowerChar c = [c] := of_decide_eq_true (List.all_eq_true.mp hall c (isBlank_iff.mp hc))
    rw [lower, List.flatMap_cons, hself]
    exact congrArg _ (ih hs)

/-! ### Letters with case not counted -/

/-- An ASCII character and its two letters. -/
theorem ascii_letters : ∀ n ∈ List.range 128, let p := Char.ofNat n
    (p = p.toLower ∨ p = p.toLower.toUpper) ∧ p.toLower.toUpper = p.toUpper ∧
      p.toLower.toLower = p.toLower ∧ p.toUpper.toLower = p.toLower ∧
      (p.toLower = 's' ↔ '\u017F' ∈ forms p) ∧ (p.toLower = 'k' ↔ '\u212A' ∈ forms p) := by
  decide +kernel

/-- A character beyond ASCII is its own small letter here. -/
theorem toLower_of_le (h : 128 ≤ c.toNat) : c.toLower = c := by
  unfold Char.toLower
  split
  · rename_i hcapital
    have hle : c.toNat ≤ 90 := hcapital.2
    omega
  · rfl

theorem eq_letter (c : Char) : c = c.toLower ∨ c = c.toLower.toUpper := by
  by_cases hc : c.toNat < 128
  · have hletters := ascii_letters c.toNat (List.mem_range.mpr hc)
    rw [Char.ofNat_toNat] at hletters
    exact hletters.1
  · left
    exact (toLower_of_le (Nat.le_of_not_lt hc)).symm

/-- The forms of an ASCII character are the characters that fold as it does. -/
theorem foldCase_eq_iff (hp : p.toNat < 128) : foldCase p = foldCase c ↔ c ∈ forms p := by
  have hletters := ascii_letters p.toNat (List.mem_range.mpr hp)
  rw [Char.ofNat_toNat] at hletters
  obtain ⟨-, hupper, hlower, hcapital, hlongS, hkelvin⟩ := hletters
  have hself : foldCase p = p.toLower := by
    unfold foldCase
    rw [if_neg, if_neg]
    · rintro rfl
      exact absurd hp (by decide)
    · rintro rfl
      exact absurd hp (by decide)
  rw [hself]
  unfold foldCase
  by_cases hs : c = '\u017F'
  · rw [if_pos hs, hs]
    exact hlongS
  by_cases hk : c = '\u212A'
  · rw [if_neg hs, if_pos hk, hk]
    exact hkelvin
  rw [if_neg hs, if_neg hk]
  constructor
  · intro h
    have hc := eq_letter c
    rw [← h, hupper] at hc
    apply List.mem_append_left
    simpa using hc
  · intro h
    rcases List.mem_append.mp h with h | h
    · rcases List.mem_pair.mp h with rfl | rfl
      · exact hlower.symm
      · exact hcapital.symm
    · split_ifs at h
      · exact absurd (List.mem_singleton.mp h) hs
      · exact absurd (List.mem_singleton.mp h) hk
      · cases h

/-! ### Patterns -/

/-- A pattern is found where the text starts with a form of it. -/
theorem foldPrefix?_eq_some (hpattern : (pattern.all fun p => p.toNat < 128) = true) :
    foldPrefix? pattern s = some rest ↔ ∃ t, IsForm pattern t ∧ t ++ rest = s := by
  induction pattern generalizing s with
  | nil => simp [foldPrefix?, IsForm, eq_comm]
  | cons p pattern ih =>
    rw [List.all_cons, Bool.and_eq_true, decide_eq_true_eq] at hpattern
    obtain ⟨hp, hpattern⟩ := hpattern
    cases s with
    | nil => simp [foldPrefix?, IsForm, List.forall₂_cons_left_iff]
    | cons c s =>
      unfold foldPrefix?
      simp only [foldCase_eq_iff hp]
      by_cases hc : c ∈ forms p
      · rw [if_pos hc, ih hpattern]
        simp [IsForm, List.forall₂_cons_left_iff, hc]
      · rw [if_neg hc]
        simp [IsForm, List.forall₂_cons_left_iff, hc]

end DriveHealth.Text
