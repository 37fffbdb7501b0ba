import FlowCanvas.Number.Rounding
import Mathlib.Algebra.Ring.Nat

/-!
# Whole numbers without a double

The bits of the double nearest to a whole number are those of infinity exactly if the number is half
way beyond the largest double, or further (`ofInt?_eq_none_iff`). With `2 ^ e` the greatest power
below the number, the fraction counted in gaps lies between `2 ^ 52` and `2 ^ 53`, so for all but one
`e` the exponent alone decides. For `e = 1023` the fraction has to round up to `2 ^ 53`.
-/

namespace FlowCanvas.Number

/-- The least natural number that rounds beyond the largest double: half a gap more than that. -/
def overflow : Nat := (2 ^ 54 - 1) * 2 ^ 970

theorem le_roundHalfEven (num den : Nat) : num / den ≤ roundHalfEven num den := by
  rw [roundHalfEven]
  split_ifs <;> omega

theorem roundHalfEven_le (num den : Nat) : roundHalfEven num den ≤ num / den + 1 := by
  rw [roundHalfEven]
  split_ifs <;> omega

/-- An odd quotient is rounded up from half way on. -/
theorem roundHalfEven_of_odd {num den : Nat} (h : num / den % 2 = 1) :
    roundHalfEven num den = if den ≤ 2 * (num % den) then num / den + 1 else num / den := by
  rw [roundHalfEven]
  split_ifs <;> omega

/-- The bits of the double nearest to a natural number. -/
theorem nearestBits_one {n : Nat} (hn : n ≠ 0) :
    nearestBits n 1 = min ((n.log2 + 1022) * fractions +
      roundHalfEven (n * 2 ^ (52 - n.log2)) (2 ^ (n.log2 - 52))) infinityBits := by
  have hpower : power 2 (n.log2 : Int) = (2 ^ n.log2, 1) := by
    rw [power, if_pos (Int.natCast_nonneg _), Int.toNat_natCast]
    rfl
  have hgap : power 2 ((n.log2 : Int) - 52) = (2 ^ (n.log2 - 52), 2 ^ (52 - n.log2)) := by
    rw [power]
    split
    · next h =>
      have h₁ : ((n.log2 : Int) - 52).toNat = n.log2 - 52 := by omega
      have h₂ : 52 - n.log2 = 0 := by omega
      rw [h₁, h₂]
      rfl
    · next h =>
      have h₁ : (-((n.log2 : Int) - 52)).toNat = 52 - n.log2 := by omega
      have h₂ : n.log2 - 52 = 0 := by omega
      rw [h₁, h₂]
      rfl
  have hlow : 2 ^ n.log2 ≤ n := Nat.log2_self_le hn
  have hone : ((Nat.log2 1 : Nat) : Int) = 0 := by decide
  have hq : max ((n.log2 : Int) - 52) (-1074) = (n.log2 : Int) - 52 := by omega
  have hcount : ((n.log2 : Int) - 52 + 1074).toNat = n.log2 + 1022 := by omega
  rw [nearestBits, if_neg hn]
  simp only [hone, Int.sub_zero, hpower, Nat.one_mul, Nat.mul_one, if_pos hlow, hq, hgap, hcount]

theorem lt_two_pow_mul {n a b : Nat} (h : n.log2 < a + b) : n < 2 ^ a * 2 ^ b := by
  rw [← Nat.pow_add]
  exact Nat.lt_of_lt_of_le Nat.lt_log2_self (Nat.pow_le_pow_right (by decide) h)

theorem two_pow_mul_le {n a b : Nat} (hn : n ≠ 0) (h : a + b ≤ n.log2) : 2 ^ a * 2 ^ b ≤ n := by
  rw [← Nat.pow_add]
  exact Nat.le_trans (Nat.pow_le_pow_right (by decide) h) (Nat.log2_self_le hn)

/-- Counted in gaps a natural number lies between `2 ^ 52` and `2 ^ 53`. -/
theorem gaps_bounds {n : Nat} (hn : n ≠ 0) :
    2 ^ 52 ≤ n * 2 ^ (52 - n.log2) / 2 ^ (n.log2 - 52) ∧
      n * 2 ^ (52 - n.log2) / 2 ^ (n.log2 - 52) < 2 ^ 53 := by
  have hpos := Nat.two_pow_pos (52 - n.log2)
  have hlow : 2 ^ n.log2 * 2 ^ (52 - n.log2) ≤ n * 2 ^ (52 - n.log2) :=
    Nat.mul_le_mul_right _ (Nat.log2_self_le hn)
  have hhigh : n * 2 ^ (52 - n.log2) < 2 ^ (n.log2 + 1) * 2 ^ (52 - n.log2) :=
    Nat.mul_lt_mul_of_pos_right Nat.lt_log2_self hpos
  -- the two shifts cancel: one of them is always zero
  have hfirst : n.log2 + (52 - n.log2) = 52 + (n.log2 - 52) := by omega
  have hsecond : n.log2 + 1 + (52 - n.log2) = 53 + (n.log2 - 52) := by omega
  rw [← Nat.pow_add, hfirst, Nat.pow_add] at hlow
  rw [← Nat.pow_add 2 (n.log2 + 1), hsecond, Nat.pow_add] at hhigh
  exact ⟨(Nat.le_div_iff_mul_le (Nat.two_pow_pos _)).2 hlow,
    (Nat.div_lt_iff_lt_mul (Nat.two_pow_pos _)).2 hhigh⟩

/-- Below `2 ^ 53` gaps the last fraction is odd, so it is rounded up from half way on. -/
theorem roundHalfEven_ge_iff {n half : Nat} (hn : n < 2 ^ 54 * half) :
    2 ^ 53 ≤ roundHalfEven n (2 * half) ↔ (2 ^ 54 - 1) * half ≤ n := by
  have hsplit := Nat.div_add_mod n (2 * half)
  have hquot : n / (2 * half) < 2 ^ 53 := Nat.div_lt_of_lt_mul (by omega)
  by_cases hlast : n / (2 * half) = 2 ^ 53 - 1
  · have hodd : n / (2 * half) % 2 = 1 := by omega
    rw [roundHalfEven_of_odd hodd, hlast]
    rw [hlast] at hsplit
    split_ifs <;> omega
  · have hle := roundHalfEven_le n (2 * half)
    have hmod := Nat.mod_lt n (by omega : 0 < 2 * half)
    have hprod : 2 * half * (n / (2 * half)) ≤ 2 * half * (2 ^ 53 - 2) :=
      Nat.mul_le_mul_left _ (by omega)
    omega

/-- **Whether a natural number rounds to infinity.** -/
theorem nearestBits_eq_infinity_iff {n : Nat} (hn : n ≠ 0) :
    nearestBits n 1 = infinityBits ↔ overflow ≤ n := by
  obtain ⟨hleast, hmost⟩ := gaps_bounds hn
  have hmin : ∀ bits, min bits infinityBits = infinityBits ↔ infinityBits ≤ bits :=
    fun _ ↦ ⟨fun h ↦ h ▸ Nat.min_le_left _ _, Nat.min_eq_right⟩
  rw [nearestBits_one hn, hmin, fractions, infinityBits, overflow]
  rcases Nat.lt_trichotomy n.log2 1023 with he | he | he
  · -- the fraction is at most `2 ^ 53`, which is not enough
    have hfraction := roundHalfEven_le (n * 2 ^ (52 - n.log2)) (2 ^ (n.log2 - 52))
    have hsmall : n < 2 ^ 53 * 2 ^ 970 := lt_two_pow_mul (a := 53) (b := 970) (by omega)
    generalize 2 ^ 970 = half at hsmall ⊢
    omega
  · have hlast : n < 2 ^ 54 * 2 ^ 970 := lt_two_pow_mul (a := 54) (b := 970) (by omega)
    have hwhole : 52 - n.log2 = 0 := by omega
    have hgap : ∀ k, n.log2 - 52 = k + 1 → 2 ^ (n.log2 - 52) = 2 * 2 ^ k := fun k hk ↦ by
      rw [hk, Nat.pow_succ']
    rw [hwhole, hgap 970 (by omega), Nat.pow_zero, Nat.mul_one, ← roundHalfEven_ge_iff hlast, he]
    omega
  · have hfraction := le_roundHalfEven (n * 2 ^ (52 - n.log2)) (2 ^ (n.log2 - 52))
    have hlarge : 2 ^ 54 * 2 ^ 970 ≤ n := two_pow_mul_le (a := 54) (b := 970) hn (by omega)
    generalize 2 ^ 970 = half at hlarge ⊢
    omega

theorem ofInt?_eq_none_iff {i : Int} : ofInt? i = none ↔ overflow ≤ i.natAbs := by
  have hbits : nearestBits i.natAbs 1 = infinityBits ↔ overflow ≤ i.natAbs := by
    by_cases hi : i.natAbs = 0
    · rw [hi]
      exact iff_of_false (by decide) (by decide +kernel)
    · exact nearestBits_eq_infinity_iff hi
  rw [← hbits, ofInt?]
  split
  · next h => exact iff_of_true rfl h
  · next h => exact iff_of_false nofun h

end FlowCanvas.Number
