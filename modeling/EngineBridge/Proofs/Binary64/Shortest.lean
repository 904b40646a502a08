import EngineBridge.Binary64.Shortest
import EngineBridge.Proofs.Binary64.Rounding
/-!
# What the shortest decimal of a double is like

`shortest_spec`: the shortest decimal of a canonical magnitude other than zero has between one
and nineteen digits and a small exponent, and its value is at most half a unit in the last place
above the magnitude's.  That is enough to read it back without overflow; that it is shortest is
not needed for that.
-/

namespace EngineBridge

namespace Decimal

/-- The value of a decimal. -/
def toRat (d : Decimal) : Rat := d.digits * 10 ^ d.exponent

theorem toRatio_den_pos (d : Decimal) : 0 < d.toRatio.2 := by
  rw [toRatio]
  split
  · exact Nat.one_pos
  · exact Nat.pow_pos (by decide)

theorem toRatio_eq (d : Decimal) : (d.toRatio.1 : Rat) / d.toRatio.2 = d.toRat :=
  Rational.ratio_eq 10 (e := d.exponent) rfl

/-- A power of ten is the value of a decimal with one digit. -/
theorem toRat_power (k : Int) : (Decimal.mk 1 k).toRat = 10 ^ k := Rat.one_mul _

/-! ## Trailing zeros -/

theorem strip_toRat (fuel : Nat) (d : Decimal) : (strip fuel d).toRat = d.toRat := by
  induction fuel generalizing d with
  | zero => rfl
  | succ fuel ih =>
    rw [strip]
    split
    · rename_i h
      have whole : ((10 * (d.digits / 10) : Nat) : Rat) = d.digits := by
        rw [Nat.mul_div_cancel' (Nat.dvd_of_mod_eq_zero h.1)]
      rw [ih, toRat, toRat, Rat.zpow_add_one (by decide), ← whole]
      push_cast
      grind
    · rfl

theorem strip_digits (fuel : Nat) (d : Decimal) :
    (strip fuel d).digits ≤ d.digits ∧ (0 < d.digits → 0 < (strip fuel d).digits) := by
  induction fuel generalizing d with
  | zero => exact ⟨Nat.le_refl _, id⟩
  | succ fuel ih =>
    rw [strip]
    split
    · obtain ⟨fewer, positive⟩ := ih ⟨d.digits / 10, d.exponent + 1⟩
      dsimp only at fewer positive
      exact ⟨by omega, fun _ => positive (by omega)⟩
    · exact ⟨Nat.le_refl _, id⟩

theorem strip_exponent (fuel : Nat) (d : Decimal) :
    d.exponent ≤ (strip fuel d).exponent ∧ (strip fuel d).exponent ≤ d.exponent + fuel := by
  induction fuel generalizing d with
  | zero => exact ⟨Int.le_refl _, by rw [strip]; omega⟩
  | succ fuel ih =>
    rw [strip]
    split
    · obtain ⟨low, high⟩ := ih ⟨d.digits / 10, d.exponent + 1⟩
      dsimp only at low high
      exact ⟨by omega, by push_cast; omega⟩
    · exact ⟨Int.le_refl _, by omega⟩

end Decimal

namespace Magnitude

/-! ## Decimals that round to a magnitude -/

/-- Half a unit in the last place above a magnitude. -/
def halfAbove (m : Magnitude) : Rat := (m.mantissa + 1 / 2) * 2 ^ m.exponent

theorem toRat_lt_halfAbove (m : Magnitude) : m.toRat < m.halfAbove := by
  rw [toRat, halfAbove]
  exact Rat.mul_lt_mul_of_pos_right (by grind) (zpow_pos two_pos _)

/-- A decimal that rounds to the value is at most half a unit above it. -/
theorem toRat_le_of_roundsFrom {m : Magnitude} {d : Decimal} (rounds : m.roundsFrom d = true) :
    d.toRat ≤ m.halfAbove := by
  have positive : (0 : Rat) < (scaled d.toRatio.1 d.toRatio.2 (m.exponent - 2)).2 :=
    Rat.natCast_pos.2 (scaled_den_pos _ d.toRatio_den_pos _)
  have value := scaled_eq d.toRatio.1 d.toRatio.2 (m.exponent - 2)
  rw [Decimal.toRatio_eq] at value
  rw [roundsFrom] at rounds
  generalize scaled d.toRatio.1 d.toRatio.2 (m.exponent - 2) = unit at positive value rounds
  have high : unit.1 ≤ m.upperEnd * unit.2 := by
    split at rounds
    · simp only [Bool.and_eq_true, decide_eq_true_eq] at rounds
      exact rounds.2
    · simp only [Bool.and_eq_true, decide_eq_true_eq] at rounds
      exact Nat.le_of_lt rounds.2
  have high : (unit.1 : Rat) / unit.2 ≤ 4 * m.mantissa + 2 := by
    rw [div_le_iff₀ positive]
    have : (unit.1 : Rat) ≤ ((m.upperEnd * unit.2 : Nat) : Rat) := Rat.natCast_le_natCast.2 high
    rw [upperEnd] at this
    push_cast at this
    exact this
  rw [value, div_le_iff₀ (zpow_pos two_pos _)] at high
  have quarter : (2 : Rat) ^ m.exponent = 2 ^ (m.exponent - 2) * 4 := by
    have := Rat.zpow_add (by decide : (2 : Rat) ≠ 0) (m.exponent - 2) 2
    rwa [Int.sub_add_cancel] at this
  rw [halfAbove, quarter]
  grind

/-- No decimal without digits rounds to a value other than zero. -/
theorem digits_pos_of_roundsFrom {m : Magnitude} {d : Decimal} (nonzero : m.mantissa ≠ 0)
    (rounds : m.roundsFrom d = true) : 0 < d.digits := by
  refine Nat.pos_of_ne_zero fun none => ?_
  have positive : 0 < (scaled d.toRatio.1 d.toRatio.2 (m.exponent - 2)).2 :=
    scaled_den_pos _ d.toRatio_den_pos _
  have value : (scaled d.toRatio.1 d.toRatio.2 (m.exponent - 2)).1 = 0 := by
    have : d.toRatio.1 = 0 := by
      rw [Decimal.toRatio]
      split
      · simp [none]
      · exact none
    rw [scaled]
    split
    · exact this
    · simp [this]
  have low : 0 < m.lowerEnd := by
    rw [lowerEnd]
    split <;> omega
  rw [roundsFrom] at rounds
  rw [value] at rounds
  have low := Nat.mul_pos low positive
  split at rounds
  all_goals
    simp only [Bool.and_eq_true, decide_eq_true_eq] at rounds
    omega

/-! ## The place of the point -/

theorem pointFrom_bounds (num den fuel : Nat) (k : Int) :
    k ≤ pointFrom num den fuel k ∧ pointFrom num den fuel k ≤ k + fuel := by
  induction fuel generalizing k with
  | zero => simp [pointFrom]
  | succ fuel ih =>
    rw [pointFrom]
    split
    · obtain ⟨low, high⟩ := ih (k + 1)
      exact ⟨by omega, by push_cast; omega⟩
    · exact ⟨Int.le_refl _, by omega⟩

/-- The test of the search: whether a power of ten is at most the value. -/
theorem power_le_iff {num den : Nat} (denPos : 0 < den) (k : Int) :
    (Decimal.mk 1 k).toRatio.1 * den ≤ num * (Decimal.mk 1 k).toRatio.2 ↔
      (10 : Rat) ^ k ≤ num / den := by
  have denPos' : (0 : Rat) < den := Rat.natCast_pos.2 denPos
  have ratioPos : (0 : Rat) < (Decimal.mk 1 k).toRatio.2 :=
    Rat.natCast_pos.2 (Decimal.mk 1 k).toRatio_den_pos
  rw [← Decimal.toRat_power k, ← Decimal.toRatio_eq, div_le_iff₀ ratioPos,
    ← Rat.natCast_le_natCast, Rat.natCast_mul, Rat.natCast_mul]
  generalize (Decimal.mk 1 k).toRatio = power at ratioPos ⊢
  have swap : (num : Rat) / den * power.2 = num * power.2 / den := by grind
  rw [swap, le_div_iff₀ denPos']

/-- The search stops above the value if one of the powers it may reach is above it, and goes up
only past powers that are not. -/
theorem pointFrom_spec (num : Nat) {den : Nat} (denPos : 0 < den) (fuel : Nat) (k : Int) :
    ((10 : Rat) ^ (pointFrom num den fuel k - 1) ≤ num / den ∨ pointFrom num den fuel k = k) ∧
      ((num : Rat) / den < 10 ^ (k + fuel) →
        (num : Rat) / den < 10 ^ pointFrom num den fuel k) := by
  induction fuel generalizing k with
  | zero => simp [pointFrom]
  | succ fuel ih =>
    rw [pointFrom]
    split
    · rename_i reached
      rw [power_le_iff denPos] at reached
      obtain ⟨low, high⟩ := ih (k + 1)
      refine ⟨.inl ?_, fun below => high ?_⟩
      · rcases low with low | same
        · exact low
        · rw [same, Int.add_sub_cancel]
          exact reached
      · rwa [Int.add_assoc, Int.add_comm 1, ← Int.natCast_succ]
    · rename_i reached
      rw [power_le_iff denPos, Rat.not_le] at reached
      exact ⟨.inr rfl, fun _ => reached⟩

theorem toRat_bounds {m : Magnitude} (nonzero : m.mantissa ≠ 0) :
    (2 : Rat) ^ ((m.mantissa.log2 : Int) + m.exponent) ≤ m.toRat ∧
      m.toRat < 2 ^ ((m.mantissa.log2 : Int) + m.exponent + 1) := by
  obtain ⟨low, high⟩ := log2_bounds (Nat.pos_of_ne_zero nonzero)
  have positive : (0 : Rat) < 2 ^ m.exponent := zpow_pos two_pos m.exponent
  have above : (m.mantissa.log2 : Int) + m.exponent + 1
      = (m.mantissa.log2 : Int) + 1 + m.exponent := by
    omega
  rw [above, Rat.zpow_add (by decide), Rat.zpow_add (by decide) (_ + 1), toRat]
  exact ⟨Rat.mul_le_mul_of_nonneg_right low (Rat.le_of_lt positive),
    Rat.mul_lt_mul_of_pos_right high positive⟩

theorem Canonical.size {m : Magnitude} (canonical : m.Canonical) (nonzero : m.mantissa ≠ 0) :
    -1074 ≤ (m.mantissa.log2 : Int) + m.exponent ∧ (m.mantissa.log2 : Int) + m.exponent ≤ 1023 := by
  obtain ⟨small, least, greatest, -⟩ := canonical
  have : m.mantissa.log2 < 53 := (Nat.log2_lt nonzero).2 small
  simp only [minExponent, maxExponent] at least greatest
  omega

/-- **The point is placed exactly**, and not far from zero. -/
theorem point_spec {m : Magnitude} (canonical : m.Canonical) (nonzero : m.mantissa ≠ 0) :
    (10 : Rat) ^ (m.point - 1) ≤ m.toRat ∧ m.toRat < 10 ^ m.point ∧
      -325 ≤ m.point ∧ m.point ≤ 310 := by
  obtain ⟨least, greatest⟩ := canonical.size nonzero
  obtain ⟨low, high⟩ := toRat_bounds nonzero
  rw [point]
  generalize (m.mantissa.log2 : Int) + m.exponent = size at least greatest low high ⊢
  obtain ⟨reached, stopped⟩ := pointFrom_spec m.toRatio.1 m.toRatio_den_pos 4
    (size * 30103 / 100000 - 1)
  obtain ⟨from', upto⟩ := pointFrom_bounds m.toRatio.1 m.toRatio.2 4 (size * 30103 / 100000 - 1)
  rw [toRatio_eq] at reached stopped
  generalize pointFrom _ _ 4 (size * 30103 / 100000 - 1) = k at reached stopped from' upto
  refine ⟨?_, stopped ?_, by omega, by omega⟩
  · rcases reached with reached | same
    · exact reached
    · exact Rat.le_trans (Rational.ten_zpow_le_two_zpow (by omega) (by omega)) low
  · exact Std.lt_of_lt_of_le high (Rational.two_zpow_le_ten_zpow (by omega) (by omega))

/-! ## Decimal grids -/

theorem neighbours_spec (m : Magnitude) (e : Int) :
    ((m.neighbours e).1 : Rat) * 10 ^ e ≤ m.toRat ∧
      m.toRat < ((m.neighbours e).1 + 1) * 10 ^ e := by
  have stepPos := (Decimal.mk 1 e).toRatio_den_pos
  have step := (Decimal.mk 1 e).toRatio_eq
  have denPos := m.toRatio_den_pos
  have value := toRatio_eq m
  have gridPos : (0 : Rat) < 10 ^ e := zpow_pos (by decide) e
  rw [Decimal.toRat_power] at step
  rw [← le_div_iff₀ gridPos, ← Rat.div_lt_iff gridPos, neighbours]
  dsimp only
  generalize (Decimal.mk 1 e).toRatio = unit at stepPos step ⊢
  generalize m.toRatio = r at denPos value ⊢
  have numPos : 0 < unit.1 := by
    refine Nat.pos_of_ne_zero fun zero => ?_
    rw [← step, zero, Nat.cast_zero, zero_div] at gridPos
    exact Rat.lt_irrefl gridPos
  have positive : 0 < r.2 * unit.1 := Nat.mul_pos denPos numPos
  have quotient : ((r.1 * unit.2 : Nat) : Rat) / ((r.2 * unit.1 : Nat) : Rat)
      = m.toRat / 10 ^ e := by
    have := Rat.natCast_pos.2 denPos
    have := Rat.natCast_pos.2 numPos
    have := Rat.natCast_pos.2 stepPos
    rw [← value, ← step]
    push_cast
    grind
  obtain ⟨nonneg, small⟩ := mod_div_bounds (r.1 * unit.2) positive
  have split := div_add_mod_eq (r.1 * unit.2) positive
  rw [quotient] at split
  constructor <;> grind

/-- A hit on a grid is one of the two neighbours there, and rounds to the value. -/
theorem onGrid_spec {m : Magnitude} {e : Int} {d : Decimal} (hit : m.onGrid e = some d) :
    d.exponent = e ∧ d.digits ≤ (m.neighbours e).1 + 1 ∧ m.roundsFrom d = true := by
  rw [onGrid] at hit
  dsimp only at hit
  split at hit
  · rename_i lower upper
    have := Nat.le_succ (m.neighbours e).1
    split at hit
    · obtain rfl := Option.some.inj hit
      exact ⟨rfl, this, lower⟩
    · split at hit
      · obtain rfl := Option.some.inj hit
        exact ⟨rfl, Nat.le_refl _, upper⟩
      · split at hit
        · obtain rfl := Option.some.inj hit
          exact ⟨rfl, this, lower⟩
        · obtain rfl := Option.some.inj hit
          exact ⟨rfl, Nat.le_refl _, upper⟩
  · rename_i lower upper
    obtain rfl := Option.some.inj hit
    exact ⟨rfl, Nat.le_succ _, lower⟩
  · rename_i lower upper
    obtain rfl := Option.some.inj hit
    exact ⟨rfl, Nat.le_refl _, upper⟩
  · simp at hit

/-- What the search answers: a hit on one of its grids, or the lower neighbour on the last. -/
theorem shortestFrom_spec (m : Magnitude) (fuel : Nat) (e : Int) :
    ∃ d, m.shortestFrom fuel e = d ∧ e - fuel ≤ d.exponent ∧ d.exponent ≤ e ∧
      d.digits ≤ (m.neighbours d.exponent).1 + 1 ∧
      (m.roundsFrom d = true ∨ d.exponent = e - fuel ∧ d.digits = (m.neighbours d.exponent).1) := by
  induction fuel generalizing e with
  | zero =>
    refine ⟨_, rfl, ?_⟩
    simp [shortestFrom]
  | succ fuel ih =>
    refine ⟨_, rfl, ?_⟩
    rw [shortestFrom]
    split
    · rename_i d hit
      obtain ⟨same, digits, rounds⟩ := onGrid_spec hit
      refine ⟨by omega, by omega, ?_, .inl rounds⟩
      rw [same]
      exact digits
    · obtain ⟨d, is, low, high, digits, last⟩ := ih (e - 1)
      rw [is]
      refine ⟨by push_cast; omega, by omega, digits, ?_⟩
      push_cast
      exact last.imp_right fun h => ⟨by omega, h.2⟩

/-! ## The shortest decimal -/

/-- **The shortest decimal of a double other than zero**: few digits and a small exponent, at most
half a unit above the double. -/
theorem shortest_spec {m : Magnitude} (canonical : m.Canonical) (nonzero : m.mantissa ≠ 0) :
    0 < m.shortest.digits ∧ m.shortest.digits ≤ 10 ^ 18 ∧
      -350 ≤ m.shortest.exponent ∧ m.shortest.exponent ≤ 350 ∧
      m.shortest.toRat ≤ m.halfAbove := by
  obtain ⟨low, high, least, greatest⟩ := point_spec canonical nonzero
  obtain ⟨d, is, coarsest, finest, digits, last⟩ := shortestFrom_spec m 17 (m.point - 1)
  obtain ⟨below, above⟩ := neighbours_spec m d.exponent
  have unstripped : m.shortest = d.strip 20 := by
    rw [shortest, isZero, if_neg (by simpa using nonzero), is]
  obtain ⟨fewer, positive⟩ := Decimal.strip_digits 20 d
  obtain ⟨lower, higher⟩ := Decimal.strip_exponent 20 d
  rw [unstripped, Decimal.strip_toRat]
  refine ⟨positive ?_, Nat.le_trans fewer ?_, by omega, by omega, ?_⟩
  · rcases last with rounds | ⟨place, same⟩
    · exact digits_pos_of_roundsFrom nonzero rounds
    · -- eighteen digits down from the first, the lower neighbour is not zero
      refine Nat.pos_of_ne_zero fun zero => ?_
      rw [← same, zero] at above
      have finer : (10 : Rat) ^ d.exponent ≤ 10 ^ (m.point - 1) :=
        zpow_le_zpow_right₀ (by decide) (by omega)
      grind
  · have few : ((m.neighbours d.exponent).1 : Rat) < 10 ^ 18 := by
      refine lt_of_mul_lt_mul_right ?_ (zpow_nonneg (by decide : (0 : Rat) ≤ 10) d.exponent)
      calc ((m.neighbours d.exponent).1 : Rat) * 10 ^ d.exponent ≤ m.toRat := below
        _ < 10 ^ m.point := high
        _ ≤ 10 ^ (18 + d.exponent) := zpow_le_zpow_right₀ (by decide) (by omega)
        _ = 10 ^ 18 * 10 ^ d.exponent := Rat.zpow_add (by decide) 18 _
    have few : (m.neighbours d.exponent).1 < 10 ^ 18 := by exact_mod_cast few
    omega
  · rcases last with rounds | ⟨-, same⟩
    · exact toRat_le_of_roundsFrom rounds
    · rw [Decimal.toRat, same]
      exact Rat.le_trans below (Rat.le_of_lt m.toRat_lt_halfAbove)

end Magnitude

end EngineBridge
