import EngineBridge.Binary64.Basic
import EngineBridge.Json.Text
import EngineBridge.Proofs.Binary64.Shortest
/-!
# Reading back the decimal of a double

What is written for a double is its shortest decimal, and reading rounds several times, so the
double read may be another one (`Magnitude.reread`).  It is always a double, though:
`ofDecimal_reading` excludes the overflow, also for the greatest doubles, whose decimals lie
close to the bound.
-/

namespace EngineBridge

namespace Magnitude

/-! ## Powers of ten -/

theorem overflowBound_eq : overflowBound = (((2 ^ 54 - 1) * 2 ^ 970 : Nat) : Rat) := by
  have top : (2 : Rat) ^ maxExponent = 2 * 2 ^ (970 : Int) := by
    rw [Rat.mul_comm]
    exact Rat.zpow_add_one (by decide) 970
  calc overflowBound = ((2 ^ 54 - 1 : Nat) : Rat) * 2 ^ (970 : Int) := by
        rw [overflowBound, mantissaBound_eq, top]
        generalize (2 : Rat) ^ (970 : Int) = unit
        grind
    _ = _ := (Rational.natCast_mul_pow _ 2 970).symm

theorem ten_pow_lt_overflowBound {k : Nat} (h : k ≤ greatestPower) :
    ((10 ^ k : Nat) : Rat) < overflowBound := by
  rw [overflowBound_eq, Rat.natCast_lt_natCast]
  calc 10 ^ k ≤ 10 ^ greatestPower := Nat.pow_le_pow_right (by decide) h
    _ < (2 ^ 54 - 1) * 2 ^ 970 := by decide +kernel

theorem overflowBound_le {k : Nat} (h : greatestPower < k) :
    overflowBound ≤ ((10 ^ k : Nat) : Rat) := by
  rw [overflowBound_eq, Rat.natCast_le_natCast]
  calc (2 ^ 54 - 1) * 2 ^ 970 ≤ 10 ^ (greatestPower + 1) := by decide +kernel
    _ ≤ 10 ^ k := Nat.pow_le_pow_right (by decide) h

theorem lt_overflowBound {x : Rat} (moderate : x ≤ 2 ^ (70 : Int)) : x < overflowBound := by
  calc x ≤ 2 ^ (70 : Int) := moderate
    _ < ((10 ^ 30 : Nat) : Rat) := by grind
    _ < overflowBound := ten_pow_lt_overflowBound (by decide)

theorem div_natCast_one (n : Nat) : (n : Rat) / (1 : Nat) = n := by
  push_cast
  grind

theorem one_le_power (k : Nat) : (1 : Rat) ≤ ((10 ^ k : Nat) : Rat) :=
  Rat.natCast_le_natCast.2 (Nat.pow_pos (by decide))

/-- The powers of ten that are used exist, off by at most `roundoff`. -/
theorem powerOfTen_spec {k : Nat} (h : k ≤ greatestPower) :
    ∃ p, powerOfTen k = some p ∧
      ((10 ^ k : Nat) : Rat) * (1 - roundoff) ≤ p.toRat ∧
      p.toRat ≤ ((10 ^ k : Nat) : Rat) * (1 + roundoff) := by
  have below := ten_pow_lt_overflowBound h
  have one := one_le_power k
  rw [← div_natCast_one] at below one
  obtain ⟨p, is⟩ := ofRatio_isSome (10 ^ k) Nat.one_pos below
  have near := ofRatio_near Nat.one_pos one is
  rw [div_natCast_one] at near
  exact ⟨p, is, near⟩

theorem half_le_powerOfTen {k : Nat} {p : Magnitude}
    (low : ((10 ^ k : Nat) : Rat) * (1 - roundoff) ≤ p.toRat) : 1 / 2 ≤ p.toRat := by
  have one := one_le_power k
  rw [roundoff_eq] at low
  grind

/-! ## Products and quotients -/

theorem mul_ratio (a b : Magnitude) :
    ((a.toRatio.1 * b.toRatio.1 : Nat) : Rat) / ((a.toRatio.2 * b.toRatio.2 : Nat) : Rat) =
      a.toRat * b.toRat := by
  rw [← toRatio_eq, ← toRatio_eq]
  have := Rat.natCast_pos.2 a.toRatio_den_pos
  have := Rat.natCast_pos.2 b.toRatio_den_pos
  push_cast
  grind

theorem div_ratio (a b : Magnitude) :
    ((a.toRatio.1 * b.toRatio.2 : Nat) : Rat) / ((a.toRatio.2 * b.toRatio.1 : Nat) : Rat) =
      a.toRat / b.toRat := by
  rw [← toRatio_eq, ← toRatio_eq]
  have := Rat.natCast_pos.2 a.toRatio_den_pos
  have := Rat.natCast_pos.2 b.toRatio_den_pos
  push_cast
  grind

theorem mul_isSome {a b : Magnitude} (below : a.toRat * b.toRat < overflowBound) :
    ∃ r, a.mul b = some r :=
  ofRatio_isSome _ (Nat.mul_pos a.toRatio_den_pos b.toRatio_den_pos) (by rwa [mul_ratio])

theorem mul_canonical {a b r : Magnitude} (is : a.mul b = some r) : r.Canonical :=
  ofRatio_canonical (Nat.mul_pos a.toRatio_den_pos b.toRatio_den_pos) is

theorem numerator_pos {b : Magnitude} (positive : 0 < b.toRat) : 0 < b.toRatio.1 := by
  refine Nat.pos_of_ne_zero fun zero => ?_
  rw [← toRatio_eq, zero, Nat.cast_zero, zero_div] at positive
  exact Rat.lt_irrefl positive

theorem div_isSome {a b : Magnitude} (positive : 0 < b.toRat)
    (below : a.toRat / b.toRat < overflowBound) : ∃ r, a.div b = some r :=
  ofRatio_isSome _ (Nat.mul_pos a.toRatio_den_pos (numerator_pos positive)) (by rwa [div_ratio])

theorem div_canonical {a b r : Magnitude} (positive : 0 < b.toRat) (is : a.div b = some r) :
    r.Canonical :=
  ofRatio_canonical (Nat.mul_pos a.toRatio_den_pos (numerator_pos positive)) is

theorem div_le {a b r : Magnitude} (positive : 0 < b.toRat) (is : a.div b = some r) :
    r.toRat ≤ 2 * (a.toRat / b.toRat) + 1 := by
  have := ofRatio_le (Nat.mul_pos a.toRatio_den_pos (numerator_pos positive)) is
  rwa [div_ratio] at this

theorem zero_canonical : zero.Canonical := ⟨by decide, by decide, by decide, .inr rfl⟩

/-! ## Reading a decimal -/

/-- Scaling down a moderate value is no overflow, whatever the power. -/
theorem scaleDown_isSome {m : Magnitude} (moderate : m.toRat ≤ 2 ^ (66 : Int)) (k : Nat) :
    ∃ r, m.scaleDown k = some r := by
  -- dividing by a power of ten at most doubles the value
  have step : ∀ {a p : Magnitude}, 1 / 2 ≤ p.toRat → a.toRat / p.toRat ≤ 2 * a.toRat := by
    intro a p half
    rw [div_le_iff₀ (by grind)]
    have := Rat.mul_le_mul_of_nonneg_left half (toRat_nonneg a)
    grind
  rw [scaleDown]
  split
  · rename_i inRange
    obtain ⟨p, power, low, -⟩ := powerOfTen_spec inRange
    have half := half_le_powerOfTen low
    obtain ⟨r, is⟩ := div_isSome (a := m) (b := p) (by grind)
      (lt_overflowBound (by have := step (a := m) half; grind))
    rw [power]
    exact ⟨r, is⟩
  · split
    · obtain ⟨p, power, low, -⟩ := powerOfTen_spec (Nat.le_refl greatestPower)
      obtain ⟨p', power', low', -⟩ := powerOfTen_spec (k := k - greatestPower) (by omega)
      have half := half_le_powerOfTen low
      have half' := half_le_powerOfTen low'
      obtain ⟨r, is⟩ := div_isSome (a := m) (b := p) (by grind)
        (lt_overflowBound (by have := step (a := m) half; grind))
      have moderate' : r.toRat ≤ 2 ^ (69 : Int) := by
        have := div_le (by grind) is
        have := step (a := m) half
        grind
      obtain ⟨r', is'⟩ := div_isSome (a := r) (b := p') (by grind)
        (lt_overflowBound (by have := step (a := r) half'; grind))
      rw [power, power']
      refine ⟨r', ?_⟩
      simp only [bind, Option.bind, is, is']
    · exact ⟨zero, rfl⟩

/-- Scaling up a value that is not below one is no overflow if the result is below the bound by the
margin of two roundings. -/
theorem scaleUp_isSome {m : Magnitude} {x : Rat} {k : Nat} (one : 1 ≤ x)
    (near : m.toRat ≤ x * (1 + roundoff))
    (below : x * ((10 ^ k : Nat) : Rat) * ((1 + roundoff) * (1 + roundoff)) < overflowBound) :
    ∃ r, m.scaleUp k = some r := by
  have inRange : k ≤ greatestPower := by
    refine Nat.le_of_not_lt fun beyond => ?_
    have factor : (1 : Rat) ≤ x * ((1 + roundoff) * (1 + roundoff)) := by
      rw [roundoff_eq]
      grind
    have grown := Rat.mul_le_mul_of_nonneg_right factor (Rat.natCast_nonneg (a := 10 ^ k))
    refine Rat.lt_irrefl (a := overflowBound) ?_
    calc overflowBound ≤ ((10 ^ k : Nat) : Rat) := overflowBound_le beyond
      _ ≤ x * ((10 ^ k : Nat) : Rat) * ((1 + roundoff) * (1 + roundoff)) := by grind
      _ < overflowBound := below
  obtain ⟨p, power, -, high⟩ := powerOfTen_spec inRange
  have product : m.toRat * p.toRat < overflowBound := by
    calc m.toRat * p.toRat
        ≤ x * (1 + roundoff) * (((10 ^ k : Nat) : Rat) * (1 + roundoff)) :=
          mul_le_mul near high (toRat_nonneg p) (by rw [roundoff_eq]; grind)
      _ = x * ((10 ^ k : Nat) : Rat) * ((1 + roundoff) * (1 + roundoff)) := by grind
      _ < overflowBound := below
  obtain ⟨r, is⟩ := mul_isSome product
  rw [scaleUp, if_pos inRange, power]
  exact ⟨r, is⟩

/-- **A decimal that is below the bound by the margin of two roundings is read as a double.** -/
theorem ofDecimal_isSome {significand : Nat} {exponent : Int} (positive : 0 < significand)
    (short : significand < 2 ^ 64)
    (below : (significand : Rat) * 10 ^ exponent * ((1 + roundoff) * (1 + roundoff))
      < overflowBound) :
    ∃ r, ofDecimal significand exponent = some r := by
  have one : (1 : Rat) ≤ significand := Rat.natCast_le_natCast.2 positive
  have moderate : (significand : Rat) ≤ 2 ^ (64 : Int) := by
    calc (significand : Rat) ≤ ((2 ^ 64 : Nat) : Rat) :=
          Rat.natCast_le_natCast.2 (Nat.le_of_lt short)
      _ = 2 ^ (64 : Int) := Rational.natCast_pow 2 64
  obtain ⟨m, is⟩ := ofRatio_isSome significand Nat.one_pos
    (lt_overflowBound (by rw [div_natCast_one]; grind))
  obtain ⟨-, high⟩ := ofRatio_near Nat.one_pos (by rwa [div_natCast_one]) is
  rw [div_natCast_one] at high
  rw [ofDecimal, ofNat, is]
  change ∃ r, (if 0 ≤ exponent then m.scaleUp exponent.toNat else m.scaleDown (-exponent).toNat) =
    some r
  split
  · rename_i up
    have power : (((10 ^ exponent.toNat : Nat) : Rat)) = 10 ^ exponent :=
      Rational.natCast_pow_toNat up
    rw [← power] at below
    exact scaleUp_isSome one high below
  · rw [roundoff_eq] at high
    exact scaleDown_isSome (by grind) _

/-- Dividing by a power of ten gives a double in its canonical form. -/
theorem div_power_canonical {m r : Magnitude} {k : Nat} (inRange : k ≤ greatestPower)
    (is : (do m.div (← powerOfTen k)) = some r) : r.Canonical := by
  obtain ⟨p, power, low, -⟩ := powerOfTen_spec inRange
  have half := half_le_powerOfTen low
  rw [power] at is
  exact div_canonical (b := p) (by grind) is

/-- Whatever is read is in its canonical form. -/
theorem ofDecimal_canonical {significand : Nat} {exponent : Int} {r : Magnitude}
    (is : ofDecimal significand exponent = some r) : r.Canonical := by
  rw [ofDecimal] at is
  obtain ⟨m, -, is⟩ := Option.bind_eq_some_iff.1 is
  split at is
  · rw [scaleUp] at is
    split at is
    · obtain ⟨p, -, is⟩ := Option.bind_eq_some_iff.1 is
      exact mul_canonical is
    · split at is
      · obtain rfl := Option.some.inj is
        exact zero_canonical
      · simp at is
  · rw [scaleDown] at is
    split at is
    · rename_i inRange
      exact div_power_canonical inRange is
    · split at is
      · rename_i above inTwo
        obtain ⟨p, -, is⟩ := Option.bind_eq_some_iff.1 is
        obtain ⟨m', -, is⟩ := Option.bind_eq_some_iff.1 is
        exact div_power_canonical (by omega) is
      · obtain rfl := Option.some.inj is
        exact zero_canonical

/-! ## Reading what was written -/

/-- The greatest double and the one below it. -/
def greatestTwo : List Magnitude := [⟨2 ^ 53 - 1, 971⟩, ⟨2 ^ 53 - 2, 971⟩]

/-- All doubles but the two greatest are below the bound by the margin of two roundings. -/
theorem Canonical.halfAbove_margin {m : Magnitude} (canonical : m.Canonical)
    (lower : m ∉ greatestTwo) :
    m.halfAbove * ((1 + roundoff) * (1 + roundoff)) < overflowBound := by
  obtain ⟨mantissa, exponent⟩ := m
  obtain ⟨small, -, greatest, -⟩ := canonical
  simp only [mantissaBound, maxExponent] at small greatest
  simp only [greatestTwo, List.mem_cons, List.not_mem_nil, mk.injEq, or_false, not_or,
    not_and] at lower
  rw [halfAbove, overflowBound, mantissaBound_eq, roundoff_eq]
  dsimp only [maxExponent]
  by_cases top : exponent = 971
  · have below : mantissa ≤ 9007199254740989 := by omega
    have below : (mantissa : Rat) ≤ 9007199254740989 := Rat.natCast_le_natCast.2 below
    have positive : (0 : Rat) < 2 ^ (971 : Int) := zpow_pos two_pos 971
    rw [top]
    generalize (2 : Rat) ^ (971 : Int) = unit at positive ⊢
    have scaled := Rat.mul_le_mul_of_nonneg_right below (Rat.le_of_lt positive)
    grind
  · have below : mantissa ≤ 9007199254740992 := by omega
    have below : (mantissa : Rat) ≤ 9007199254740992 := Rat.natCast_le_natCast.2 below
    have narrow : (2 : Rat) ^ exponent ≤ 2 ^ (970 : Int) :=
      zpow_le_zpow_right₀ (by decide) (by omega)
    have next : (2 : Rat) ^ (971 : Int) = 2 ^ (970 : Int) * 2 := Rat.zpow_add_one (by decide) 970
    have positive : (0 : Rat) < 2 ^ exponent := zpow_pos two_pos exponent
    rw [next]
    generalize (2 : Rat) ^ (970 : Int) = unit at narrow ⊢
    have scaled := Rat.mul_le_mul_of_nonneg_right below (Rat.le_of_lt positive)
    grind

end Magnitude

namespace Decimal

/-- The decimal that is read from the text of a decimal: the zero written after the point of a
whole number counts among its digits. -/
def reading (d : Decimal) : Decimal :=
  if 0 ≤ d.exponent ∧ JsonNumber.layout.least ≤ d.leading ∧ d.leading ≤ JsonNumber.layout.greatest
  then ⟨d.digits * 10 ^ (d.exponent.toNat + 1), -1⟩
  else d

theorem reading_toRat (d : Decimal) : d.reading.toRat = d.toRat := by
  rw [reading]
  split
  · rename_i whole
    have power : (((10 ^ d.exponent.toNat : Nat) : Rat)) = 10 ^ d.exponent :=
      Rational.natCast_pow_toNat whole.1
    rw [toRat, toRat, ← power, Rat.zpow_neg, Rat.zpow_one, Nat.pow_succ, Rat.natCast_mul,
      Rat.natCast_mul]
    grind
  · rfl

theorem digitText_eq (d : Decimal) : d.digitText = String.ofList (Nat.toDigits 10 d.digits) :=
  Nat.toString_eq_ofList_toDigits

theorem length_digitText (d : Decimal) :
    d.digitText.length = (Nat.toDigits 10 d.digits).length := by
  rw [digitText_eq, String.length_ofList]

theorem digits_lt (d : Decimal) : d.digits < 10 ^ d.digitText.length := by
  have positive : 0 < (Nat.toDigits 10 d.digits).length :=
    List.length_pos_iff.2 Nat.toDigits_ne_nil
  rw [length_digitText]
  exact (Nat.length_toDigits_le_iff (by decide) positive).1 (Nat.le_refl _)

theorem reading_digits_lt {d : Decimal} (few : d.digits ≤ 10 ^ 18) : d.reading.digits < 2 ^ 64 := by
  rw [reading]
  split
  · rename_i whole
    obtain ⟨nonneg, -, short⟩ := whole
    have short : d.exponent.toNat + d.digitText.length ≤ 16 := by
      rw [leading, JsonNumber.layout] at short
      dsimp only at short
      omega
    calc d.digits * 10 ^ (d.exponent.toNat + 1)
        < 10 ^ d.digitText.length * 10 ^ (d.exponent.toNat + 1) :=
          Nat.mul_lt_mul_of_pos_right d.digits_lt (Nat.pow_pos (by decide))
      _ = 10 ^ (d.exponent.toNat + d.digitText.length + 1) := by
        rw [← Nat.pow_add]
        congr 1
        omega
      _ ≤ 10 ^ 17 := Nat.pow_le_pow_right (by decide) (by omega)
      _ < 2 ^ 64 := by decide
  · exact Nat.lt_of_le_of_lt few (by decide)

theorem reading_digits_pos {d : Decimal} (positive : 0 < d.digits) : 0 < d.reading.digits := by
  rw [reading]
  split
  · exact Nat.mul_pos positive (Nat.pow_pos (by decide))
  · exact positive

end Decimal

namespace Magnitude

/-- The magnitude that is read from the text of one. -/
def reread (m : Magnitude) : Magnitude :=
  (ofDecimal m.shortest.reading.digits m.shortest.reading.exponent).getD zero

/-- The two greatest doubles are close to the bound; both are read as the greatest. -/
theorem ofDecimal_greatestTwo : ∀ m ∈ greatestTwo,
    ofDecimal m.shortest.reading.digits m.shortest.reading.exponent = some ⟨2 ^ 53 - 1, 971⟩ := by
  decide +kernel

/-- **The text of a double is read as a double**, though perhaps another one. -/
theorem ofDecimal_reading {m : Magnitude} (canonical : m.Canonical) :
    ofDecimal m.shortest.reading.digits m.shortest.reading.exponent = some m.reread ∧
      m.reread.Canonical := by
  suffices ∃ r, ofDecimal m.shortest.reading.digits m.shortest.reading.exponent = some r by
    obtain ⟨r, is⟩ := this
    rw [reread, is]
    exact ⟨rfl, ofDecimal_canonical is⟩
  by_cases zero' : m.mantissa = 0
  · have unwritten : m.shortest = ⟨0, 0⟩ := by
      rw [shortest, isZero, if_pos (by simpa using zero')]
    rw [unwritten]
    exact ⟨zero, rfl⟩
  by_cases greatest : m ∈ greatestTwo
  · exact ⟨_, ofDecimal_greatestTwo m greatest⟩
  obtain ⟨positive, few, -, -, close⟩ := shortest_spec canonical zero'
  refine ofDecimal_isSome (Decimal.reading_digits_pos positive) (Decimal.reading_digits_lt few) ?_
  have value := Decimal.reading_toRat m.shortest
  rw [Decimal.toRat] at value
  rw [value]
  have margin := canonical.halfAbove_margin greatest
  have nonneg : 0 ≤ (1 + roundoff) * (1 + roundoff) := by
    rw [roundoff_eq]
    grind
  exact Std.lt_of_le_of_lt (Rat.mul_le_mul_of_nonneg_right close nonneg) margin

end Magnitude

/-- The double that is read from the text of one. -/
def Binary64.reread (f : Binary64) : Binary64 := ⟨f.negative, f.magnitude.reread⟩

end EngineBridge
