import Mathlib.Algebra.Group.Nat.Defs

/-!
# Rounding to binary32

A number is an integer count of some power of two. The nearest binary32 number keeps 24 of its
bits, and of two that are as near the even one; numbers that are not below the normal range or
above the finite one are meant. Rounding does not go past a number that has no more bits.
-/

namespace Binary32

/-- The weight of the last bit that is kept. -/
def ulp (n : Nat) : Nat :=
  2 ^ (n.log2 + 1 - 24)

/-- The nearest number of 24 bits. -/
def roundNat (n : Nat) : Nat :=
  let q := n / ulp n
  let r := n % ulp n
  if 2 * r < ulp n ∨ (2 * r = ulp n ∧ q % 2 = 0) then q * ulp n else (q + 1) * ulp n

/-- Rounding, with the sign kept. -/
def round : Int → Int
  | .ofNat n => roundNat n
  | .negSucc n => -(roundNat (n + 1) : Int)

/-- A number of 24 bits. -/
def Exact (n : Nat) : Prop :=
  ulp n ∣ n

instance (n : Nat) : Decidable (Exact n) :=
  inferInstanceAs (Decidable (_ ∣ _))

theorem ulp_pos (n : Nat) : 0 < ulp n :=
  Nat.two_pow_pos _

/-- A number is rounded down or up. -/
theorem roundNat_cases (n : Nat) :
    (roundNat n = n / ulp n * ulp n) ∨
      (roundNat n = (n / ulp n + 1) * ulp n ∧ ¬ Exact n) := by
  unfold roundNat
  dsimp only
  split
  · exact Or.inl rfl
  · rename_i up
    refine Or.inr ⟨rfl, fun exact => up (Or.inl ?_)⟩
    rw [Nat.mod_eq_zero_of_dvd exact, Nat.mul_zero]
    exact ulp_pos n

theorem roundNat_exact {n : Nat} (exact : Exact n) : roundNat n = n := by
  rcases roundNat_cases n with down | ⟨-, other⟩
  · rw [down]
    exact Nat.div_mul_cancel exact
  · exact absurd exact other

theorem le_roundNat_add (n : Nat) : n / ulp n * ulp n ≤ roundNat n := by
  rcases roundNat_cases n with down | ⟨up, -⟩
  · exact Nat.le_of_eq down.symm
  · rw [up]
    exact Nat.mul_le_mul_right _ (Nat.le_succ _)

theorem roundNat_le_add (n : Nat) : roundNat n ≤ (n / ulp n + 1) * ulp n := by
  rcases roundNat_cases n with down | ⟨up, -⟩
  · rw [down]
    exact Nat.mul_le_mul_right _ (Nat.le_succ _)
  · exact Nat.le_of_eq up

/-- A number with more bits than another keeps its first bit. -/
theorem two_pow_log2_le_roundNat {n : Nat} (positive : n ≠ 0) : 2 ^ n.log2 ≤ roundNat n := by
  refine Nat.le_trans ?_ (le_roundNat_add n)
  have low := Nat.log2_self_le positive
  -- The first bit is a multiple of the last one that is kept.
  have whole : 2 ^ n.log2 = 2 ^ (n.log2 - (n.log2 + 1 - 24)) * ulp n := by
    rw [ulp, ← Nat.pow_add]
    congr 1
    omega
  rw [whole] at low ⊢
  exact Nat.mul_le_mul_right _ ((Nat.le_div_iff_mul_le (ulp_pos n)).mpr low)

/-- It has at most one more bit when it is rounded up. -/
theorem roundNat_le_two_pow (n : Nat) : roundNat n ≤ 2 ^ (n.log2 + 1) := by
  refine Nat.le_trans (roundNat_le_add n) ?_
  have high : n < 2 ^ (n.log2 + 1) := Nat.lt_log2_self
  have whole : 2 ^ (n.log2 + 1) = 2 ^ (n.log2 + 1 - (n.log2 + 1 - 24)) * ulp n := by
    rw [ulp, ← Nat.pow_add]
    congr 1
    omega
  rw [whole] at high ⊢
  exact Nat.mul_le_mul_right _ ((Nat.div_lt_iff_lt_mul (ulp_pos n)).mpr high)

theorem log2_mono {m n : Nat} (positive : m ≠ 0) (le : m ≤ n) : m.log2 ≤ n.log2 := by
  rw [Nat.le_log2 (by omega)]
  exact Nat.le_trans (Nat.log2_self_le positive) le

/-- Rounding does not go up past a number of 24 bits. -/
theorem roundNat_le {n m : Nat} (exact : Exact m) (le : n ≤ m) : roundNat n ≤ m := by
  rcases Nat.eq_or_lt_of_le le with rfl | less
  · exact Nat.le_of_eq (roundNat_exact exact)
  rcases Nat.eq_zero_or_pos n with rfl | positive
  · exact Nat.zero_le m
  rcases Nat.eq_or_lt_of_le (log2_mono (by omega) le) with same | bits
  · have scale : ulp n = ulp m := by rw [ulp, ulp, same]
    obtain ⟨k, multiple⟩ := exact
    refine Nat.le_trans (roundNat_le_add n) ?_
    rw [scale]
    have below : n / ulp m < k := by
      rw [Nat.div_lt_iff_lt_mul (ulp_pos m), Nat.mul_comm]
      exact multiple ▸ less
    calc (n / ulp m + 1) * ulp m ≤ k * ulp m := Nat.mul_le_mul_right _ below
      _ = m := by rw [Nat.mul_comm]; exact multiple.symm
  · calc roundNat n ≤ 2 ^ (n.log2 + 1) := roundNat_le_two_pow n
      _ ≤ 2 ^ m.log2 := Nat.pow_le_pow_right (by decide) bits
      _ ≤ m := Nat.log2_self_le (by omega)

/-- Nor down past one. -/
theorem le_roundNat {n m : Nat} (exact : Exact m) (le : m ≤ n) : m ≤ roundNat n := by
  rcases Nat.eq_zero_or_pos m with rfl | positive
  · exact Nat.zero_le _
  rcases Nat.eq_or_lt_of_le (log2_mono (by omega) le) with same | bits
  · have scale : ulp m = ulp n := by rw [ulp, ulp, same]
    refine Nat.le_trans ?_ (le_roundNat_add n)
    rw [← scale]
    calc m = m / ulp m * ulp m := (Nat.div_mul_cancel exact).symm
      _ ≤ n / ulp m * ulp m := Nat.mul_le_mul_right _ (Nat.div_le_div_right le)
  · calc m ≤ 2 ^ (m.log2 + 1) := Nat.le_of_lt Nat.lt_log2_self
      _ ≤ 2 ^ n.log2 := Nat.pow_le_pow_right (by decide) bits
      _ ≤ roundNat n := two_pow_log2_le_roundNat (by omega)

theorem round_ofNat (n : Nat) : round (n : Int) = roundNat n :=
  rfl

theorem round_nonpos {x : Int} (negative : x ≤ 0) : round x ≤ 0 := by
  cases x with
  | ofNat n =>
    obtain rfl : n = 0 := by
      have small : (n : Int) ≤ 0 := negative
      omega
    decide
  | negSucc n => exact Int.neg_nonpos_of_nonneg (Int.natCast_nonneg _)

end Binary32
