import EngineBridge.Toml.Basic
/-!
# TOML numbers

Integers are decimal, hexadecimal, octal or binary, of 64 bits with a sign; a point or an
exponent makes a floating-point number.  A `_` may stand between two digits.
-/

namespace EngineBridge.Toml

-- Powers are core's, also where Mathlib has brought its own.
attribute [local instance (20000)] instPowNat

def digitOf? (base : Nat) (c : Char) : Option Nat :=
  let value :=
    if '0' ≤ c && c ≤ '9' then c.toNat - '0'.toNat
    else if 'a' ≤ c && c ≤ 'f' then c.toNat - 'a'.toNat + 10
    else if 'A' ≤ c && c ≤ 'F' then c.toNat - 'A'.toNat + 10
    else base
  if value < base then some value else none

/-- Reads digits; `isDue` tells that one must follow, as at the start and after a `_`. -/
def readDigits (base : Nat) (isDue : Bool) (done : List Nat) :
    List Char → Option (List Nat × List Char)
  | [] => if isDue then none else some (done.reverse, [])
  | c :: rest =>
    match digitOf? base c with
    | some digit => readDigits base false (digit :: done) rest
    | none =>
      if isDue then none
      else if c = '_' then readDigits base true done rest
      else some (done.reverse, c :: rest)

def ofDigits (base : Nat) (digits : List Nat) : Nat :=
  digits.foldl (fun value digit => value * base + digit) 0

/-- An integer, if it is in range. -/
def integer? (value : Int) : Option Toml :=
  if InRange value then some (.integer value) else none

def decimalLength (n : Nat) : Nat := (toString n).length

/-- The double nearest to `digits * 10 ^ exponent`.  One that is too great is refused, unless
it is negative: then it is the negative infinity. -/
def float? (negative : Bool) (digits : Nat) (exponent : Int) : Option Toml :=
  let tooGreat : Option Toml := if negative then some (.float (.infinite true)) else none
  let leading := (decimalLength digits : Int) + exponent
  if digits = 0 ∨ leading < -400 then some (.float (.finite ⟨negative, .zero⟩))
  else if 400 < leading then tooGreat
  else
    let nearest :=
      if 0 ≤ exponent then Magnitude.ofRatio (digits * 10 ^ exponent.toNat) 1
      else Magnitude.ofRatio digits (10 ^ (-exponent).toNat)
    match nearest with
    | some magnitude => some (.float (.finite ⟨negative, magnitude⟩))
    | none => tooGreat

/-- A sign, if there is one: whether it is a minus, and what follows. -/
def readSign : List Char → Bool × List Char
  | '+' :: rest => (false, rest)
  | '-' :: rest => (true, rest)
  | input => (false, input)

/-- Reads what may follow the digits of a floating-point number: an exponent. -/
def readExponent (negative : Bool) (digits : List Nat) (places : Nat) (input : List Char) :
    Option (Toml × List Char) :=
  let finish (exponent : Int) (rest : List Char) : Option (Toml × List Char) := do
    return (← float? negative (ofDigits 10 digits) (exponent - places), rest)
  match input with
  | c :: rest =>
    if c = 'e' ∨ c = 'E' then do
      let (down, rest) := readSign rest
      let (power, rest) ← readDigits 10 true [] rest
      let exponent : Int := ofDigits 10 power
      finish (if down then -exponent else exponent) rest
    else finish 0 input
  | [] => finish 0 input

def readAfterWhole (negative : Bool) (whole : List Nat) (input : List Char) :
    Option (Toml × List Char) :=
  match input with
  | '.' :: rest => do
    let (places, rest) ← readDigits 10 true [] rest
    readExponent negative (whole ++ places) places.length rest
  | c :: _ =>
    if c = 'e' ∨ c = 'E' then readExponent negative whole 0 input
    else do
      let value : Int := ofDigits 10 whole
      return (← integer? (if negative then -value else value), input)
  | [] => do
    let value : Int := ofDigits 10 whole
    return (← integer? (if negative then -value else value), input)

def afterWord : List Char → List Char → Option (List Char)
  | [], input => some input
  | _ :: _, [] => none
  | letter :: word, c :: rest => if c = letter then afterWord word rest else none

/-- Reads a number whose sign, if any, has been read; a leading zero stands alone. -/
def readUnsigned (negative : Bool) (input : List Char) : Option (Toml × List Char) :=
  match input with
  | '0' :: rest => readAfterWhole negative [0] rest
  | 'i' :: rest => do
    return (.float (.infinite negative), ← afterWord ['n', 'f'] rest)
  | 'n' :: rest => do
    return (.float .notANumber, ← afterWord ['a', 'n'] rest)
  | _ => do
    let (digits, rest) ← readDigits 10 true [] input
    readAfterWhole negative digits rest

/-- Reads an integer whose base has been read. -/
def readBased (base : Nat) (input : List Char) : Option (Toml × List Char) := do
  let (digits, rest) ← readDigits base true [] input
  return (← integer? (ofDigits base digits), rest)

def readNumber (input : List Char) : Option (Toml × List Char) :=
  match input with
  | '0' :: 'x' :: rest => readBased 16 rest
  | '0' :: 'o' :: rest => readBased 8 rest
  | '0' :: 'b' :: rest => readBased 2 rest
  | _ =>
    let (negative, rest) := readSign input
    readUnsigned negative rest

end EngineBridge.Toml
