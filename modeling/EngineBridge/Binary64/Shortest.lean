import EngineBridge.Binary64.Basic
/-!
# The shortest decimal of a double

A double stands for every real that rounds to it, an interval whose ends belong to it
exactly when the mantissa is even.  `Magnitude.shortest` answers the decimal with the fewest
digits inside that interval, and of two with equally many the nearer to the value (a tie
goes to the even digit).  If a decimal grid has a point in the interval, one of the value's
two neighbours on that grid lies in it, so looking at the neighbours is enough.

A double is written as the shortest decimal of its magnitude, laid out positionally or with an
exponent.  Which of the two a format uses is a `FloatLayout`; `positional` never uses an exponent.
-/

namespace EngineBridge

-- Powers are core's, also where Mathlib has brought its own.
attribute [local instance (20000)] instPowNat

/-- The value `digits * 10 ^ exponent`. -/
structure Decimal where
  digits : Nat
  exponent : Int
deriving DecidableEq, Repr

namespace Decimal

def toRatio (d : Decimal) : Nat × Nat :=
  if 0 ≤ d.exponent then (d.digits * 10 ^ d.exponent.toNat, 1)
  else (d.digits, 10 ^ (-d.exponent).toNat)

/-- Drops trailing zeros of the digits, at most `fuel` of them. -/
def strip : Nat → Decimal → Decimal
  | 0, d => d
  | fuel + 1, d =>
    if d.digits % 10 = 0 ∧ d.digits ≠ 0 then strip fuel ⟨d.digits / 10, d.exponent + 1⟩ else d

end Decimal

namespace Magnitude

/-- Four times the mantissa of the lower end of the reals that round to the value; the gap
below a power of two is half as wide. -/
def lowerEnd (m : Magnitude) : Nat :=
  if m.mantissa = 2 ^ (52 : Nat) ∧ minExponent < m.exponent then 4 * m.mantissa - 1
  else 4 * m.mantissa - 2

def upperEnd (m : Magnitude) : Nat := 4 * m.mantissa + 2

/-- Whether the decimal rounds to the value. -/
def roundsFrom (m : Magnitude) (d : Decimal) : Bool :=
  let unit := scaled d.toRatio.1 d.toRatio.2 (m.exponent - 2)
  let low := m.lowerEnd * unit.2
  let high := m.upperEnd * unit.2
  if m.mantissa % 2 = 0 then low ≤ unit.1 && unit.1 ≤ high
  else low < unit.1 && unit.1 < high

/-- Number of decimal digits before the point, counted from the first that is not zero
(zero or negative below one), found upward from `k`. -/
def pointFrom (num den : Nat) : Nat → Int → Int
  | 0, k => k
  | fuel + 1, k =>
    let power : Decimal := ⟨1, k⟩
    if power.toRatio.1 * den ≤ num * power.toRatio.2 then pointFrom num den fuel (k + 1) else k

/-- The `k` with `10 ^ (k - 1) ≤ value < 10 ^ k`, for a value other than zero. -/
def point (m : Magnitude) : Int :=
  let r := m.toRatio
  let estimate : Int := ((m.mantissa.log2 : Int) + m.exponent) * 30103 / 100000
  pointFrom r.1 r.2 4 (estimate - 1)

/-- The neighbours of the value on the grid of multiples of `10 ^ e`: the lower one, and the
distances to it and to the upper one in a common unit. -/
def neighbours (m : Magnitude) (e : Int) : Nat × Nat × Nat :=
  let r := m.toRatio
  let step : Nat × Nat := (Decimal.mk 1 e).toRatio
  let num := r.1 * step.2
  let den := r.2 * step.1
  (num / den, num % den, den - num % den)

/-- The neighbour on the grid that rounds to the value, if one does: the nearer of two. -/
def onGrid (m : Magnitude) (e : Int) : Option Decimal :=
  let (below, toBelow, toAbove) := m.neighbours e
  let lower : Decimal := ⟨below, e⟩
  let upper : Decimal := ⟨below + 1, e⟩
  match m.roundsFrom lower, m.roundsFrom upper with
  | true, true =>
    if toBelow < toAbove then some lower
    else if toAbove < toBelow then some upper
    else if below % 2 = 0 then some lower else some upper
  | true, false => some lower
  | false, true => some upper
  | false, false => none

/-- The first grid with a hit, beginning at `10 ^ e` and growing finer. -/
def shortestFrom (m : Magnitude) : Nat → Int → Decimal
  | 0, e => ⟨(m.neighbours e).1, e⟩
  | fuel + 1, e =>
    match m.onGrid e with
    | some d => d
    | none => shortestFrom m fuel (e - 1)

/-- The shortest decimal that reads back as the value; seventeen digits always suffice. -/
def shortest (m : Magnitude) : Decimal :=
  if m.isZero then ⟨0, 0⟩ else (m.shortestFrom 17 (m.point - 1)).strip 20

end Magnitude

/-! ## Writing a double -/

/-- Between which exponents of the first digit a double is written positionally. -/
structure FloatLayout where
  least : Int
  greatest : Int
deriving DecidableEq, Repr

namespace Decimal

def digitText (d : Decimal) : String := toString d.digits

def leading (d : Decimal) : Int := d.exponent + (d.digitText.length : Int) - 1

def zeros (n : Nat) : String := String.ofList (List.replicate n '0')

/-- Without an exponent, and always with a point. -/
def positional (d : Decimal) : String :=
  let digits := d.digitText
  if 0 ≤ d.exponent then digits ++ zeros d.exponent.toNat ++ ".0"
  else
    let places := (-d.exponent).toNat
    if digits.length ≤ places then "0." ++ zeros (places - digits.length) ++ digits
    else
      let chars := digits.toList
      let whole := digits.length - places
      String.ofList (chars.take whole) ++ "." ++ String.ofList (chars.drop whole)

/-- With one digit before the point, no point after a lone digit, and a signed exponent. -/
def scientific (d : Decimal) : String :=
  let mantissa :=
    match d.digitText.toList with
    | [] => ""
    | [first] => String.ofList [first]
    | first :: rest => String.ofList (first :: '.' :: rest)
  let exponent := d.leading
  mantissa ++ (if exponent < 0 then "e-" else "e+") ++ toString exponent.natAbs

end Decimal

namespace Binary64

def sign (f : Binary64) : String := if f.negative then "-" else ""

/-- The shortest text in a layout; zero is `0.0`. -/
def text (layout : FloatLayout) (f : Binary64) : String :=
  let d := f.magnitude.shortest
  f.sign ++
    if f.magnitude.isZero then "0.0"
    else if layout.least ≤ d.leading ∧ d.leading ≤ layout.greatest then d.positional
    else d.scientific

def positional (f : Binary64) : String :=
  f.sign ++ if f.magnitude.isZero then "0.0" else f.magnitude.shortest.positional

end Binary64

end EngineBridge
