import Mathlib.Algebra.Order.Field.Rat
/-!
# Powers of ten and of two among the rationals

The values of doubles are rationals.  The code keeps them as fractions of naturals without negative
exponents, and `ratio_eq` is the value of such a fraction.  Powers of ten are compared with powers
of two through `10 ^ 3 ≤ 2 ^ 10` and `2 ^ 93 ≤ 10 ^ 28`.
-/

namespace EngineBridge.Rational

theorem natCast_pow (base n : Nat) : ((base ^ n : Nat) : Rat) = (base : Rat) ^ (n : Int) := by
  rw [Rat.zpow_natCast, Rat.natCast_pow]

theorem natCast_mul_pow (n base k : Nat) :
    ((n * base ^ k : Nat) : Rat) = n * (base : Rat) ^ (k : Int) := by
  rw [Rat.natCast_mul, natCast_pow]

theorem natCast_pow_toNat {base : Nat} {e : Int} (h : 0 ≤ e) :
    ((base ^ e.toNat : Nat) : Rat) = (base : Rat) ^ e := by
  rw [natCast_pow, Int.toNat_of_nonneg h]

theorem natCast_pow_neg_toNat {base : Nat} {e : Int} (h : e < 0) :
    ((base ^ (-e).toNat : Nat) : Rat) = ((base : Rat) ^ e)⁻¹ := by
  rw [natCast_pow_toNat (by omega), Rat.zpow_neg]

/-- The fraction of a number and a power of a base, without negative exponents. -/
theorem ratio_eq (base : Nat) {n : Nat} {e : Int} {ratio : Nat × Nat}
    (is : ratio = if 0 ≤ e then (n * base ^ e.toNat, 1) else (n, base ^ (-e).toNat)) :
    (ratio.1 : Rat) / ratio.2 = n * (base : Rat) ^ e := by
  rw [is]
  split
  · rename_i h
    rw [Rat.natCast_mul, natCast_pow_toNat h]
    grind
  · rw [natCast_pow_neg_toNat (by omega), Rat.div_def, Rat.inv_inv]

/-! ## Powers of ten and of two -/

theorem ten_pow_le_two_pow {k n : Nat} (h : 10 * k ≤ 3 * n) : (10 : Nat) ^ k ≤ 2 ^ n := by
  refine (Nat.pow_le_pow_iff_left (by decide : 10 ≠ 0)).1 ?_
  calc (10 ^ k) ^ 10 = 10 ^ (10 * k) := by rw [← Nat.pow_mul, Nat.mul_comm]
    _ ≤ 10 ^ (3 * n) := Nat.pow_le_pow_right (by decide) h
    _ = (10 ^ 3) ^ n := Nat.pow_mul ..
    _ ≤ (2 ^ 10) ^ n := Nat.pow_le_pow_left (by decide) n
    _ = (2 ^ n) ^ 10 := Nat.pow_right_comm ..

theorem two_pow_le_ten_pow {k n : Nat} (h : 28 * n ≤ 93 * k) : (2 : Nat) ^ n ≤ 10 ^ k := by
  refine (Nat.pow_le_pow_iff_left (by decide : 93 ≠ 0)).1 ?_
  calc (2 ^ n) ^ 93 = (2 ^ 93) ^ n := Nat.pow_right_comm ..
    _ ≤ (10 ^ 28) ^ n := Nat.pow_le_pow_left (by decide) n
    _ = 10 ^ (28 * n) := by rw [← Nat.pow_mul]
    _ ≤ 10 ^ (93 * k) := Nat.pow_le_pow_right (by decide) h
    _ = (10 ^ k) ^ 93 := by rw [← Nat.pow_mul, Nat.mul_comm]

theorem ten_zpow_le_two_zpow {k n : Int} (low : 10 * k ≤ 3 * n) (high : 93 * k ≤ 28 * n) :
    (10 : Rat) ^ k ≤ 2 ^ n := by
  rcases Int.le_total 0 n with nonneg | nonpos
  · rcases Int.le_total 0 k with nonneg' | nonpos'
    · have compared := ten_pow_le_two_pow (k := k.toNat) (n := n.toNat) (by omega)
      rw [← Rat.natCast_le_natCast, natCast_pow_toNat nonneg, natCast_pow_toNat nonneg'] at compared
      exact compared
    · calc (10 : Rat) ^ k ≤ 10 ^ (0 : Int) := zpow_le_zpow_right₀ (by decide) nonpos'
        _ = 2 ^ (0 : Int) := rfl
        _ ≤ 2 ^ n := zpow_le_zpow_right₀ (by decide) nonneg
  · -- both exponents are negative, and the inverses compare the other way
    have inverted : (2 : Rat) ^ (-n) ≤ 10 ^ (-k) := by
      have compared := two_pow_le_ten_pow (k := (-k).toNat) (n := (-n).toNat) (by omega)
      rw [← Rat.natCast_le_natCast, natCast_pow_toNat (by omega), natCast_pow_toNat (by omega)]
        at compared
      exact compared
    have := inv_anti₀ (zpow_pos two_pos _) inverted
    rwa [Rat.zpow_neg, Rat.zpow_neg, Rat.inv_inv, Rat.inv_inv] at this

theorem two_zpow_le_ten_zpow {k n : Int} (low : 3 * n ≤ 10 * k) (high : 28 * n ≤ 93 * k) :
    (2 : Rat) ^ n ≤ 10 ^ k := by
  have inverted := inv_anti₀ (zpow_pos (by decide) _)
    (ten_zpow_le_two_zpow (k := -k) (n := -n) (by omega) (by omega))
  rwa [Rat.zpow_neg, Rat.zpow_neg, Rat.inv_inv, Rat.inv_inv] at inverted

end EngineBridge.Rational
