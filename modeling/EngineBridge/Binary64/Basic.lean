/-!
# Binary floating point, exactly

A finite double is a sign and a magnitude `mantissa * 2 ^ exponent`.  Arithmetic is exact
arithmetic of natural numbers followed by one rounding: to 53 binary digits, to nearest, a
tie to the even neighbour, with exponents bounded below by -1074 (`Magnitude.ofRatio`).
Overflow is a `none` of the operation, so no infinity and no NaN exists here.

A decimal `significand * 10 ^ exponent` with a significand of at most 64 bits is read by
rounding the significand to a double and multiplying or dividing it by a double nearest to a
power of ten up to `10 ^ 308`; below that range it is divided twice (`Magnitude.ofDecimal`).  Each
operation rounds, so the answer may be off the nearest double by a unit in the last place.
-/

namespace EngineBridge

-- Powers are core's, also where Mathlib has brought its own.
attribute [local instance (20000)] instPowNat

/-- The value `mantissa * 2 ^ exponent`. -/
structure Magnitude where
  mantissa : Nat
  exponent : Int
deriving DecidableEq, Repr

namespace Magnitude

def minExponent : Int := -1074

def maxExponent : Int := 971

/-- One more than the greatest mantissa. -/
def mantissaBound : Nat := 2 ^ (53 : Nat)

/-- The form in which each value of a double is written once. -/
def Canonical (m : Magnitude) : Prop :=
  m.mantissa < mantissaBound ∧ minExponent ≤ m.exponent ∧ m.exponent ≤ maxExponent ∧
    (2 ^ (52 : Nat) ≤ m.mantissa ∨ m.exponent = minExponent)

def zero : Magnitude := ⟨0, minExponent⟩

def isZero (m : Magnitude) : Bool := m.mantissa = 0

def toRatio (m : Magnitude) : Nat × Nat :=
  if 0 ≤ m.exponent then (m.mantissa * 2 ^ m.exponent.toNat, 1)
  else (m.mantissa, 2 ^ (-m.exponent).toNat)

/-- The fraction `num / den` divided by `2 ^ e`. -/
def scaled (num den : Nat) (e : Int) : Nat × Nat :=
  if 0 ≤ e then (num, den * 2 ^ e.toNat) else (num * 2 ^ (-e).toNat, den)

/-- The quotient rounded to the nearest natural number, a tie to the even one. -/
def roundHalfEven (num den : Nat) : Nat :=
  let q := num / den
  let r := num % den
  if 2 * r < den then q
  else if den < 2 * r then q + 1
  else if q % 2 = 0 then q else q + 1

/-- The exponent at which `num / den` (both positive) has 53 binary digits, or the least
exponent when it has fewer there. -/
def exponentOf (num den : Nat) : Int :=
  let guess : Int := (num.log2 : Int) - (den.log2 : Int) - 52
  let scaledByGuess := scaled num den guess
  max minExponent (if scaledByGuess.1 < 2 ^ (52 : Nat) * scaledByGuess.2 then guess - 1 else guess)

/-- The double nearest to `num / den`, or `none` when it is beyond the greatest one. -/
def ofRatio (num den : Nat) : Option Magnitude :=
  if num = 0 then some zero
  else
    let e := exponentOf num den
    let q := roundHalfEven (scaled num den e).1 (scaled num den e).2
    let m : Magnitude := if q = mantissaBound then ⟨2 ^ (52 : Nat), e + 1⟩ else ⟨q, e⟩
    if m.exponent ≤ maxExponent then some m else none

def ofNat (n : Nat) : Option Magnitude := ofRatio n 1

def mul (a b : Magnitude) : Option Magnitude :=
  ofRatio (a.toRatio.1 * b.toRatio.1) (a.toRatio.2 * b.toRatio.2)

/-- Quotient by a value other than zero, rounded once. -/
def div (a b : Magnitude) : Option Magnitude :=
  ofRatio (a.toRatio.1 * b.toRatio.2) (a.toRatio.2 * b.toRatio.1)

def powerOfTen (k : Nat) : Option Magnitude := ofNat (10 ^ k)

end Magnitude

/-- A finite double; the two zeros differ. -/
structure Binary64 where
  negative : Bool
  magnitude : Magnitude
deriving DecidableEq, Repr

end EngineBridge

/-! ## From decimal to double -/

namespace EngineBridge.Magnitude

def greatestPower : Nat := 308

/-- Divides by `10 ^ k`, in two operations when one power does not reach; what is left after
two is zero. -/
def scaleDown (m : Magnitude) (k : Nat) : Option Magnitude := do
  if k ≤ greatestPower then m.div (← powerOfTen k)
  else if k ≤ 2 * greatestPower then
    (← m.div (← powerOfTen greatestPower)).div (← powerOfTen (k - greatestPower))
  else some zero

/-- Multiplies by `10 ^ k`; `none` beyond the greatest double. -/
def scaleUp (m : Magnitude) (k : Nat) : Option Magnitude := do
  if k ≤ greatestPower then m.mul (← powerOfTen k)
  else if m.isZero then some zero
  else none

/-- The double that `significand * 10 ^ exponent` is read as, or `none` beyond the greatest
one. -/
def ofDecimal (significand : Nat) (exponent : Int) : Option Magnitude := do
  let m ← ofNat significand
  if 0 ≤ exponent then m.scaleUp exponent.toNat else m.scaleDown (-exponent).toNat

end EngineBridge.Magnitude
