import EngineBridge.Binary64.Basic
import EngineBridge.Proofs.Binary64.Rational
/-!
# What rounding to a double does

Fractions and magnitudes are compared as rational numbers.  `exponentOf_spec` places a fraction
among the doubles, and from that come the three facts on `ofRatio` that everything else uses: its
results are canonical (`ofRatio_canonical`), it fails only at or above `overflowBound`
(`ofRatio_isSome`), and from one upward it is off by at most `roundoff` of the value
(`ofRatio_near`).
-/

namespace EngineBridge.Magnitude

/-- The value of a magnitude. -/
def toRat (m : Magnitude) : Rat := m.mantissa * 2 ^ m.exponent

/-- Half a unit above the greatest double: what lies below is rounded to a double. -/
def overflowBound : Rat := (mantissaBound - 1 / 2) * 2 ^ maxExponent

/-- The relative error of one rounding, from one upward. -/
def roundoff : Rat := 1 / mantissaBound

theorem mantissaBound_eq : (mantissaBound : Rat) = 9007199254740992 := rfl

theorem leastNormal_eq : ((2 ^ 52 : Nat) : Rat) = 4503599627370496 := rfl

theorem roundoff_eq : roundoff = 1 / 9007199254740992 := rfl

theorem toRat_nonneg (m : Magnitude) : 0 ≤ m.toRat :=
  Rat.mul_nonneg Rat.natCast_nonneg (Rat.le_of_lt (zpow_pos two_pos _))

/-! ## Fractions -/

theorem toRatio_den_pos (m : Magnitude) : 0 < m.toRatio.2 := by
  rw [toRatio]
  split
  · exact Nat.one_pos
  · exact Nat.two_pow_pos _

theorem toRatio_eq (m : Magnitude) : (m.toRatio.1 : Rat) / m.toRatio.2 = m.toRat :=
  Rational.ratio_eq 2 (e := m.exponent) rfl

theorem scaled_den_pos (num : Nat) {den : Nat} (positive : 0 < den) (e : Int) :
    0 < (scaled num den e).2 := by
  rw [scaled]
  split
  · exact Nat.mul_pos positive (Nat.two_pow_pos _)
  · exact positive

theorem scaled_eq (num den : Nat) (e : Int) :
    ((scaled num den e).1 : Rat) / (scaled num den e).2 = num / den / 2 ^ e := by
  rw [scaled]
  split
  · rename_i h
    rw [Rat.natCast_mul, Rational.natCast_pow_toNat h, Rat.div_def, Rat.inv_mul_rev]
    grind
  · rename_i h
    rw [Rat.natCast_mul, Rational.natCast_pow_neg_toNat (by omega)]
    grind

/-! ## Rounding to a natural number -/

theorem div_add_mod_eq (num : Nat) {den : Nat} (positive : 0 < den) :
    (num : Rat) / den = (num / den : Nat) + (num % den : Nat) / den := by
  have whole : ((den * (num / den) + num % den : Nat) : Rat) = num := by rw [Nat.div_add_mod]
  have positive' : (0 : Rat) < den := Rat.natCast_pos.2 positive
  rw [← whole]
  push_cast
  grind

theorem mod_div_bounds (num : Nat) {den : Nat} (positive : 0 < den) :
    0 ≤ ((num % den : Nat) : Rat) / den ∧ ((num % den : Nat) : Rat) / den < 1 := by
  have positive' : (0 : Rat) < den := Rat.natCast_pos.2 positive
  rw [le_div_iff₀ positive', Rat.div_lt_iff positive', Rat.zero_mul, Rat.one_mul]
  exact ⟨Rat.natCast_nonneg, Rat.natCast_lt_natCast.2 (Nat.mod_lt num positive)⟩

/-- A rounded quotient is at most half a unit away. -/
theorem roundHalfEven_near (num : Nat) {den : Nat} (positive : 0 < den) :
    (num : Rat) / den - 1 / 2 ≤ roundHalfEven num den ∧
      (roundHalfEven num den : Rat) ≤ num / den + 1 / 2 := by
  have positive' : (0 : Rat) < den := Rat.natCast_pos.2 positive
  obtain ⟨nonneg, small⟩ := mod_div_bounds num positive
  rw [div_add_mod_eq num positive, roundHalfEven]
  generalize num / den = q
  generalize num % den = r at small nonneg ⊢
  -- either the lower neighbour is at most half a unit away, or the upper one is
  have down : 2 * r ≤ den → (r : Rat) / den ≤ 1 / 2 := by
    intro h
    rw [div_le_iff₀ positive']
    have : ((2 * r : Nat) : Rat) ≤ den := Rat.natCast_le_natCast.2 h
    push_cast at this
    grind
  have up : den ≤ 2 * r → 1 / 2 ≤ (r : Rat) / den := by
    intro h
    rw [le_div_iff₀ positive']
    have : (den : Rat) ≤ ((2 * r : Nat) : Rat) := Rat.natCast_le_natCast.2 h
    push_cast at this
    grind
  split
  · have := down (by omega)
    constructor <;> grind
  · split
    · have := up (by omega)
      push_cast
      constructor <;> grind
    · have := down (by omega)
      have := up (by omega)
      split
      · constructor <;> grind
      · push_cast
        constructor <;> grind

theorem le_roundHalfEven {num den bound : Nat} (positive : 0 < den)
    (h : (bound : Rat) ≤ num / den) : bound ≤ roundHalfEven num den := by
  have near := (roundHalfEven_near num positive).1
  have : (bound : Rat) < roundHalfEven num den + 1 := by grind
  have : bound < roundHalfEven num den + 1 := by exact_mod_cast this
  omega

theorem roundHalfEven_le {num den bound : Nat} (positive : 0 < den)
    (h : (num : Rat) / den ≤ bound) : roundHalfEven num den ≤ bound := by
  have near := (roundHalfEven_near num positive).2
  have : (roundHalfEven num den : Rat) < bound + 1 := by grind
  have : roundHalfEven num den < bound + 1 := by exact_mod_cast this
  omega

/-! ## The exponent of a fraction -/

/-- A positive number lies between two powers of two. -/
theorem log2_bounds {n : Nat} (positive : 0 < n) :
    (2 : Rat) ^ (n.log2 : Int) ≤ n ∧ (n : Rat) < 2 ^ ((n.log2 : Int) + 1) := by
  constructor
  · rw [Rat.zpow_natCast]
    exact_mod_cast Nat.log2_self_le (Nat.ne_of_gt positive)
  · rw [← Int.natCast_succ, Rat.zpow_natCast]
    exact_mod_cast Nat.lt_log2_self

/-- The sizes of numerator and denominator give the size of a fraction up to a factor of four. -/
theorem ratio_bounds {num den : Nat} (numPos : 0 < num) (denPos : 0 < den) :
    (2 : Rat) ^ ((num.log2 : Int) - den.log2 - 1) < num / den ∧
      (num : Rat) / den < 2 ^ ((num.log2 : Int) - den.log2 + 1) := by
  obtain ⟨numLow, numHigh⟩ := log2_bounds numPos
  obtain ⟨denLow, denHigh⟩ := log2_bounds denPos
  have denPos' : (0 : Rat) < den := Rat.natCast_pos.2 denPos
  have two : (2 : Rat) ≠ 0 := by decide
  constructor
  · rw [Rat.lt_div_iff denPos']
    calc (2 : Rat) ^ ((num.log2 : Int) - den.log2 - 1) * den
        < 2 ^ ((num.log2 : Int) - den.log2 - 1) * 2 ^ ((den.log2 : Int) + 1) :=
          Rat.mul_lt_mul_of_pos_left denHigh (zpow_pos two_pos _)
      _ = 2 ^ (num.log2 : Int) := by rw [← Rat.zpow_add two]; congr 1; omega
      _ ≤ num := numLow
  · rw [Rat.div_lt_iff denPos']
    calc (num : Rat) < 2 ^ ((num.log2 : Int) + 1) := numHigh
      _ = 2 ^ ((num.log2 : Int) - den.log2 + 1) * 2 ^ (den.log2 : Int) := by
        rw [← Rat.zpow_add two]; congr 1; omega
      _ ≤ 2 ^ ((num.log2 : Int) - den.log2 + 1) * den :=
        Rat.mul_le_mul_of_nonneg_left denLow (Rat.le_of_lt (zpow_pos two_pos _))

/-- The guessed exponent, corrected by one where it is too great, gives 53 binary digits. -/
theorem corrected_guess {num den : Nat} (numPos : 0 < num) (denPos : 0 < den) {guess e : Int}
    (guessed : guess = (num.log2 : Int) - den.log2 - 52)
    (corrected : e = if (scaled num den guess).1 < 2 ^ 52 * (scaled num den guess).2
      then guess - 1 else guess) :
    ((2 ^ 52 : Nat) : Rat) * 2 ^ e ≤ num / den ∧ (num : Rat) / den < mantissaBound * 2 ^ e := by
  obtain ⟨low, high⟩ := ratio_bounds numPos denPos
  have two : (2 : Rat) ≠ 0 := by decide
  have below : (scaled num den guess).1 < 2 ^ 52 * (scaled num den guess).2
      ↔ (num : Rat) / den < ((2 ^ 52 : Nat) : Rat) * 2 ^ guess := by
    rw [← Rat.div_lt_iff (zpow_pos two_pos guess), ← scaled_eq,
      Rat.div_lt_iff (Rat.natCast_pos.2 (scaled_den_pos num denPos guess)),
      ← Rat.natCast_lt_natCast, Rat.natCast_mul]
  -- both bounds are powers of two, so only exponents are compared
  have shift : ∀ (n : Nat) (e : Int), ((2 ^ n : Nat) : Rat) * 2 ^ e = 2 ^ (n + e) := by
    intro n e
    rw [Rat.zpow_add two, Rational.natCast_pow]
    rfl
  rw [mantissaBound]
  by_cases short : (scaled num den guess).1 < 2 ^ 52 * (scaled num den guess).2
  · rw [if_pos short] at corrected
    subst corrected
    have short := below.1 short
    rw [shift] at short ⊢
    rw [shift]
    constructor
    · calc (2 : Rat) ^ ((52 : Nat) + (guess - 1)) = 2 ^ ((num.log2 : Int) - den.log2 - 1) := by
            congr 1
            omega
        _ ≤ num / den := Rat.le_of_lt low
    · calc (num : Rat) / den < 2 ^ ((52 : Nat) + guess) := short
        _ = 2 ^ ((53 : Nat) + (guess - 1)) := by
          congr 1
          omega
  · rw [if_neg short] at corrected
    subst corrected
    refine ⟨Rat.not_lt.1 (mt below.2 short), ?_⟩
    rw [shift]
    calc (num : Rat) / den < 2 ^ ((num.log2 : Int) - den.log2 + 1) := high
      _ = 2 ^ ((53 : Nat) + e) := by
        congr 1
        omega

/-- **Where a fraction lies among the doubles**: in units of its exponent it is below `2 ^ 53`,
and from `2 ^ 52` upward unless it is below all normal doubles. -/
theorem exponentOf_spec {num den : Nat} (numPos : 0 < num) (denPos : 0 < den) :
    minExponent ≤ exponentOf num den ∧
      (num : Rat) / den < mantissaBound * 2 ^ exponentOf num den ∧
      (((2 ^ 52 : Nat) : Rat) * 2 ^ exponentOf num den ≤ num / den ∨
        exponentOf num den = minExponent) := by
  obtain ⟨e, normal, bounded, is⟩ : ∃ e : Int,
      ((2 ^ 52 : Nat) : Rat) * 2 ^ e ≤ num / den ∧ (num : Rat) / den < mantissaBound * 2 ^ e ∧
        exponentOf num den = max minExponent e := by
    obtain ⟨normal, bounded⟩ := corrected_guess numPos denPos rfl rfl
    exact ⟨_, normal, bounded, rfl⟩
  rw [is]
  refine ⟨Int.le_max_left _ _, ?_, ?_⟩
  · calc (num : Rat) / den < mantissaBound * 2 ^ e := bounded
      _ ≤ mantissaBound * 2 ^ max minExponent e :=
        Rat.mul_le_mul_of_nonneg_left (zpow_le_zpow_right₀ (by decide) (Int.le_max_right _ _))
          Rat.natCast_nonneg
  · rcases Int.le_total minExponent e with above | below
    · rw [Int.max_eq_right above]
      exact .inl normal
    · exact .inr (Int.max_eq_left below)

/-! ## Rounding a fraction -/

/-- The quotient at an exponent, rounded. -/
def roundedAt (num den : Nat) (e : Int) : Nat :=
  roundHalfEven (scaled num den e).1 (scaled num den e).2

/-- Rounding at an exponent is off by at most half a unit there. -/
theorem roundedAt_near (num : Nat) {den : Nat} (denPos : 0 < den) (e : Int) :
    (num : Rat) / den - 2 ^ e / 2 ≤ roundedAt num den e * 2 ^ e ∧
      (roundedAt num den e : Rat) * 2 ^ e ≤ num / den + 2 ^ e / 2 := by
  obtain ⟨above, below⟩ := roundHalfEven_near (scaled num den e).1 (scaled_den_pos num denPos e)
  rw [scaled_eq] at above below
  have unit : (0 : Rat) < 2 ^ e := zpow_pos two_pos e
  have whole : (num : Rat) / den / 2 ^ e * 2 ^ e = num / den :=
    Rat.div_mul_cancel (Rat.ne_of_gt unit)
  have above := Rat.mul_le_mul_of_nonneg_right above (Rat.le_of_lt unit)
  have below := Rat.mul_le_mul_of_nonneg_right below (Rat.le_of_lt unit)
  rw [roundedAt]
  constructor <;> grind

/-- What `ofRatio` makes of a positive fraction: its quotient at its exponent, rounded, unless
that is too great. -/
theorem ofRatio_eq {num den : Nat} (numPos : 0 < num) (denPos : 0 < den) :
    ∃ m : Magnitude,
      m.toRat = roundedAt num den (exponentOf num den) * 2 ^ exponentOf num den ∧
      m.mantissa < mantissaBound ∧ minExponent ≤ m.exponent ∧
      (2 ^ 52 ≤ m.mantissa ∨ m.exponent = minExponent) ∧
      ofRatio num den = if m.exponent ≤ maxExponent then some m else none := by
  obtain ⟨least, bounded, normal⟩ := exponentOf_spec numPos denPos
  rw [ofRatio, if_neg (Nat.ne_of_gt numPos)]
  dsimp only
  have positive := scaled_den_pos num denPos (exponentOf num den)
  have quotient := scaled_eq num den (exponentOf num den)
  rw [roundedAt]
  generalize exponentOf num den = e at least bounded normal positive quotient ⊢
  generalize scaled num den e = fraction at positive quotient ⊢
  rw [← Rat.div_lt_iff (zpow_pos two_pos e), ← quotient] at bounded
  rw [← le_div_iff₀ (zpow_pos two_pos e), ← quotient] at normal
  have small : roundHalfEven fraction.1 fraction.2 ≤ mantissaBound :=
    roundHalfEven_le positive (Rat.le_of_lt bounded)
  have large : 2 ^ 52 ≤ roundHalfEven fraction.1 fraction.2 ∨ e = minExponent :=
    normal.imp_left (le_roundHalfEven positive)
  generalize roundHalfEven fraction.1 fraction.2 = q at small large ⊢
  refine ⟨_, ?_, ?_, ?_, ?_, rfl⟩
  all_goals by_cases carry : q = mantissaBound
  all_goals first | rw [if_pos carry] | rw [if_neg carry]
  all_goals simp only [mantissaBound] at carry small ⊢
  · rw [toRat, carry, Rat.zpow_add_one (by decide)]
    push_cast
    grind
  · rfl
  · decide
  · omega
  · omega
  · exact least
  · exact .inl (Nat.le_refl _)
  · exact large

theorem ofRatio_canonical {num den : Nat} {m : Magnitude} (denPos : 0 < den)
    (rounded : ofRatio num den = some m) : m.Canonical := by
  rcases Nat.eq_zero_or_pos num with rfl | numPos
  · rw [ofRatio, if_pos rfl] at rounded
    obtain rfl := Option.some.inj rounded
    exact ⟨by decide, by decide, by decide, .inr rfl⟩
  · obtain ⟨m', -, small, least, normal, is⟩ := ofRatio_eq numPos denPos
    rw [rounded] at is
    split at is
    · rename_i bounded
      obtain rfl := Option.some.inj is
      exact ⟨small, least, bounded, normal⟩
    · simp at is

/-- **What lies below half a unit above the greatest double is rounded to a double.** -/
theorem ofRatio_isSome (num : Nat) {den : Nat} (denPos : 0 < den)
    (below : (num : Rat) / den < overflowBound) : ∃ m, ofRatio num den = some m := by
  rcases Nat.eq_zero_or_pos num with rfl | numPos
  · exact ⟨zero, by rw [ofRatio, if_pos rfl]⟩
  obtain ⟨m, value, -, least, large, is⟩ := ofRatio_eq numPos denPos
  rw [is]
  by_cases bounded : m.exponent ≤ maxExponent
  · exact ⟨m, if_pos bounded⟩
  exfalso
  rw [overflowBound, mantissaBound_eq] at below
  simp only [maxExponent, minExponent] at bounded large below
  have next : (2 : Rat) ^ (972 : Int) = 2 ^ (971 : Int) * 2 := Rat.zpow_add_one (by decide) 971
  -- the rounded value would be `2 ^ 53 * 2 ^ 971` at least
  have huge : ((2 ^ 52 : Nat) : Rat) * 2 ^ (972 : Int) ≤ m.toRat := by
    have mantissa : ((2 ^ 52 : Nat) : Rat) ≤ m.mantissa := by
      rcases large with h | h
      · exact Rat.natCast_le_natCast.2 h
      · omega
    exact mul_le_mul mantissa (zpow_le_zpow_right₀ (by decide) (by omega))
      (Rat.le_of_lt (zpow_pos two_pos _)) Rat.natCast_nonneg
  obtain ⟨-, -, normal⟩ := exponentOf_spec numPos denPos
  obtain ⟨-, near⟩ := roundedAt_near num denPos (exponentOf num den)
  rw [← value] at near
  rw [leastNormal_eq] at huge normal
  generalize exponentOf num den = e at normal near
  by_cases small : e ≤ 971
  · have unit : (2 : Rat) ^ e ≤ 2 ^ (971 : Int) := zpow_le_zpow_right₀ (by decide) small
    rw [next] at huge
    generalize (2 : Rat) ^ (971 : Int) = top at below huge unit
    grind
  · have normal := normal.resolve_right (by simp only [minExponent]; omega)
    have unit : (2 : Rat) ^ (972 : Int) ≤ 2 ^ e := zpow_le_zpow_right₀ (by decide) (by omega)
    have positive : (0 : Rat) < 2 ^ (971 : Int) := zpow_pos two_pos 971
    rw [next] at unit
    generalize (2 : Rat) ^ (971 : Int) = top at below unit positive
    grind

/-- A rounded fraction is off by at most half a unit at its exponent. -/
theorem ofRatio_off {num den : Nat} {m : Magnitude} (denPos : 0 < den)
    (rounded : ofRatio num den = some m) :
    ∃ e : Int, (num : Rat) / den - 2 ^ e / 2 ≤ m.toRat ∧ m.toRat ≤ num / den + 2 ^ e / 2 ∧
      (num : Rat) / den < mantissaBound * 2 ^ e ∧
      (((2 ^ 52 : Nat) : Rat) * 2 ^ e ≤ num / den ∨ e = minExponent) := by
  rcases Nat.eq_zero_or_pos num with rfl | numPos
  · rw [ofRatio, if_pos rfl] at rounded
    obtain rfl := Option.some.inj rounded
    have positive : (0 : Rat) < 2 ^ minExponent := zpow_pos two_pos minExponent
    have value : zero.toRat = 0 := Rat.zero_mul _
    rw [value, Nat.cast_zero, zero_div, mantissaBound_eq]
    exact ⟨minExponent, by grind, by grind, by grind, .inr rfl⟩
  obtain ⟨m', value, -, -, -, is⟩ := ofRatio_eq numPos denPos
  rw [rounded] at is
  split at is
  case isFalse => simp at is
  obtain rfl := Option.some.inj is
  obtain ⟨-, high, normal⟩ := exponentOf_spec numPos denPos
  obtain ⟨above, below⟩ := roundedAt_near num denPos (exponentOf num den)
  rw [← value] at above below
  exact ⟨_, above, below, high, normal⟩

/-- The doubles without the digit before the point are far below one. -/
theorem minExponent_unit : (mantissaBound : Rat) * 2 ^ minExponent ≤ 1 := by
  calc (mantissaBound : Rat) * 2 ^ minExponent = 2 ^ ((53 : Nat) + minExponent) := by
        rw [Rat.zpow_add (by decide), mantissaBound, Rational.natCast_pow]
        rfl
    _ ≤ 2 ^ (0 : Int) := zpow_le_zpow_right₀ (by decide) (by decide)
    _ = 1 := Rat.zpow_zero 2

/-- **From one upward a rounded fraction is off by at most `roundoff` of its value.** -/
theorem ofRatio_near {num den : Nat} {m : Magnitude} (denPos : 0 < den)
    (one : (1 : Rat) ≤ num / den) (rounded : ofRatio num den = some m) :
    (num : Rat) / den * (1 - roundoff) ≤ m.toRat ∧ m.toRat ≤ num / den * (1 + roundoff) := by
  obtain ⟨e, lower, upper, high, normal⟩ := ofRatio_off denPos rounded
  -- one is far above the least exponent
  have normal := normal.resolve_right fun least => by
    rw [least] at high
    exact Rat.not_le.2 high (Rat.le_trans minExponent_unit one)
  rw [leastNormal_eq] at normal
  rw [roundoff_eq]
  generalize (2 : Rat) ^ e = unit at normal lower upper
  constructor <;> grind

theorem ofRatio_le {num den : Nat} {m : Magnitude} (denPos : 0 < den)
    (rounded : ofRatio num den = some m) : m.toRat ≤ 2 * (num / den) + 1 := by
  obtain ⟨e, -, upper, -, normal⟩ := ofRatio_off denPos rounded
  have nonneg : (0 : Rat) ≤ num / den := by
    rw [le_div_iff₀ (Rat.natCast_pos.2 denPos), Rat.zero_mul]
    exact Rat.natCast_nonneg
  have positive : (0 : Rat) < 2 ^ e := zpow_pos two_pos e
  rcases normal with normal | least
  · rw [leastNormal_eq] at normal
    grind
  · have small := minExponent_unit
    rw [← least, mantissaBound_eq] at small
    grind

end EngineBridge.Magnitude
