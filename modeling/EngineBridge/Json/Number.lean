import EngineBridge.Binary64.Basic
import EngineBridge.Json.Basic
import EngineBridge.Json.Stop
/-!
# Reading a JSON number

Digits go into a 64-bit significand while they fit.  An integer that fits a signed or
unsigned 64-bit word stays one; `-0`, a point, an exponent or more digits make it a double.
Digits beyond the significand only move the exponent (before the point) or are dropped
(after it).
-/

namespace EngineBridge.Json

-- Powers are core's, also where Mathlib has brought its own.
attribute [local instance (20000)] instPowNat

def greatestSignificand : Nat := 2 ^ (64 : Nat) - 1

/-- Exponents are counted up to this value. -/
def greatestExponent : Nat := 2 ^ (31 : Nat) - 1

def digit? (b : UInt8) : Option Nat :=
  if 0x30 ≤ b && b ≤ 0x39 then some (b.toNat - 0x30) else none

def skipDigits : Bytes → Bytes
  | [] => []
  | b :: rest => if (digit? b).isSome then skipDigits rest else b :: rest

def isExponentMark (b : UInt8) : Bool := b = 0x65 || b = 0x45

/-- The double of the parts read, in front of `rest`. -/
def finishFloat (negative : Bool) (significand : Nat) (exponent : Int) (rest : Bytes) :
    Except Stop (JsonNumber × Bytes) :=
  match Magnitude.ofDecimal significand exponent with
  | some magnitude => .ok (.float ⟨negative, magnitude⟩, rest)
  | none => stopBefore .numberTooLarge rest

/-- Reads the further digits of an exponent whose value so far is `power`. -/
def readExponentDigits (negative : Bool) (significand : Nat) (exponent : Int) (down : Bool)
    (power : Nat) : Bytes → Except Stop (JsonNumber × Bytes)
  | [] => finishFloat negative significand (if down then exponent - power else exponent + power) []
  | b :: rest =>
    match digit? b with
    | some d =>
      if power * 10 + d ≤ greatestExponent then
        readExponentDigits negative significand exponent down (power * 10 + d) rest
      else if significand ≠ 0 ∧ down = false then stopBefore .numberTooLarge rest
      else .ok (.float ⟨negative, .zero⟩, skipDigits rest)
    | none =>
      finishFloat negative significand (if down then exponent - power else exponent + power)
        (b :: rest)

def readExponentFirst (negative : Bool) (significand : Nat) (exponent : Int) (down : Bool) :
    Bytes → Except Stop (JsonNumber × Bytes)
  | [] => stopAtEnd .endInValue
  | b :: rest =>
    match digit? b with
    | some d => readExponentDigits negative significand exponent down d rest
    | none => stopBefore .badNumber rest

def readExponent (negative : Bool) (significand : Nat) (exponent : Int) (input : Bytes) :
    Except Stop (JsonNumber × Bytes) :=
  match input with
  | 0x2B :: rest => readExponentFirst negative significand exponent false rest
  | 0x2D :: rest => readExponentFirst negative significand exponent true rest
  | _ => readExponentFirst negative significand exponent false input

/-- What may follow the digits after the point. -/
def readFractionEnd (negative : Bool) (significand : Nat) (exponent : Int) :
    Bytes → Except Stop (JsonNumber × Bytes)
  | [] => finishFloat negative significand exponent []
  | b :: rest =>
    if isExponentMark b then readExponent negative significand exponent rest
    else finishFloat negative significand exponent (b :: rest)

def readFraction (negative : Bool) (significand : Nat) (exponent : Int) (any : Bool) :
    Bytes → Except Stop (JsonNumber × Bytes)
  | [] =>
    if any then readFractionEnd negative significand exponent [] else stopAtEnd .endInValue
  | b :: rest =>
    match digit? b with
    | some d =>
      if significand * 10 + d ≤ greatestSignificand then
        readFraction negative (significand * 10 + d) (exponent - 1) true rest
      else readFractionEnd negative significand exponent (skipDigits rest)
    | none =>
      if any then readFractionEnd negative significand exponent (b :: rest)
      else stopBefore .badNumber rest

/-- Reads the digits before the point that no longer fit the significand. -/
def readLongInteger (negative : Bool) (significand : Nat) (exponent : Int) :
    Bytes → Except Stop (JsonNumber × Bytes)
  | [] => finishFloat negative significand exponent []
  | b :: rest =>
    if (digit? b).isSome then readLongInteger negative significand (exponent + 1) rest
    else if b = 0x2E then readFraction negative significand exponent false rest
    else if isExponentMark b then readExponent negative significand exponent rest
    else finishFloat negative significand exponent (b :: rest)

/-- The number of a significand without point or exponent. -/
def wholeNumber (negative : Bool) (significand : Nat) : JsonNumber :=
  if negative then
    if significand = 0 then .float ⟨true, .zero⟩
    else if significand ≤ 2 ^ (63 : Nat) then .integer (-(significand : Int))
    else .float ⟨true, (Magnitude.ofNat significand).getD .zero⟩
  else .integer significand

/-- What may follow the digits before the point. -/
def readNumberEnd (negative : Bool) (significand : Nat) : Bytes → Except Stop (JsonNumber × Bytes)
  | [] => .ok (wholeNumber negative significand, [])
  | b :: rest =>
    if b = 0x2E then readFraction negative significand 0 false rest
    else if isExponentMark b then readExponent negative significand 0 rest
    else .ok (wholeNumber negative significand, b :: rest)

def readDigits (negative : Bool) (significand : Nat) : Bytes → Except Stop (JsonNumber × Bytes)
  | [] => readNumberEnd negative significand []
  | b :: rest =>
    match digit? b with
    | some d =>
      if significand * 10 + d ≤ greatestSignificand then
        readDigits negative (significand * 10 + d) rest
      else readLongInteger negative significand 1 rest
    | none => readNumberEnd negative significand (b :: rest)

/-- Refuses a digit after a leading zero. -/
def readAfterZero (negative : Bool) : Bytes → Except Stop (JsonNumber × Bytes)
  | [] => readNumberEnd negative 0 []
  | b :: rest =>
    if (digit? b).isSome then stopBefore .badNumber rest
    else readNumberEnd negative 0 (b :: rest)

/-- Reads a number whose sign, if any, has been read. -/
def readNumber (negative : Bool) : Bytes → Except Stop (JsonNumber × Bytes)
  | [] => stopAtEnd .endInValue
  | b :: rest =>
    match digit? b with
    | some 0 => readAfterZero negative rest
    | some d => readDigits negative d rest
    | none => stopBefore .badNumber rest

end EngineBridge.Json
