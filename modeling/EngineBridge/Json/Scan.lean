import EngineBridge.Json.Stop
import EngineBridge.Text.Utf8
/-!
# Tokens of JSON: blanks, words and strings

Each scanner answers what it read and the bytes after it.  A string is read byte by byte by
a small automaton (`StringState`), so that every stop is reported at the byte where it
shows; the bytes between the quotes, escapes resolved, must be UTF-8.
-/

namespace EngineBridge.Json

def isBlank (b : UInt8) : Bool :=
  b = 0x20 || b = 0x0A || b = 0x09 || b = 0x0D

def skipBlanks : Bytes → Bytes
  | [] => []
  | b :: rest => if isBlank b then skipBlanks rest else b :: rest

/-- Reads the rest of a word whose first letter was seen. -/
def expectWord : List UInt8 → Bytes → Except Stop Bytes
  | [], input => .ok input
  | _ :: _, [] => stopAtEnd .endInValue
  | letter :: word, b :: rest =>
    if b = letter then expectWord word rest else stopBefore .wordMissing rest

def nullTail : List UInt8 := [0x75, 0x6C, 0x6C]

def trueTail : List UInt8 := [0x72, 0x75, 0x65]

def falseTail : List UInt8 := [0x61, 0x6C, 0x73, 0x65]

def hexValue? (b : UInt8) : Option Nat :=
  if 0x30 ≤ b && b ≤ 0x39 then some (b.toNat - 0x30)
  else if 0x41 ≤ b && b ≤ 0x46 then some (b.toNat - 0x37)
  else if 0x61 ≤ b && b ≤ 0x66 then some (b.toNat - 0x57)
  else none

def hexNumber? (digits : List UInt8) : Option Nat :=
  digits.foldl (fun value b => do return (← value) * 16 + (← hexValue? b)) (some 0)

/-- The character that a one-letter escape stands for. -/
def shortEscape? (b : UInt8) : Option UInt8 :=
  if b = 0x22 then some 0x22
  else if b = 0x5C then some 0x5C
  else if b = 0x2F then some 0x2F
  else if b = 0x62 then some 0x08
  else if b = 0x66 then some 0x0C
  else if b = 0x6E then some 0x0A
  else if b = 0x72 then some 0x0D
  else if b = 0x74 then some 0x09
  else none

def isHighSurrogate (unit : Nat) : Bool := 0xD800 ≤ unit && unit ≤ 0xDBFF

def isLowSurrogate (unit : Nat) : Bool := 0xDC00 ≤ unit && unit ≤ 0xDFFF

def pairValue (high low : Nat) : Nat :=
  (high - 0xD800) * 0x400 + (low - 0xDC00) + 0x10000

def reversedUtf8 (value : Nat) : List UInt8 :=
  (Utf8.encodeChar (Char.ofNat value)).reverse

/-- Where inside a string the reader stands. -/
inductive StringState where
  /-- Among plain characters. -/
  | plain
  /-- After a backslash. -/
  | escape
  /-- Among the four digits of an escape, the digits read so far reversed; `high` is the
  first unit of a pair already read. -/
  | hex (high : Option Nat) (digits : List UInt8)
  /-- After the first unit of a pair: a backslash must follow. -/
  | pairBackslash (high : Nat)
  /-- After the backslash that follows the first unit: the letter `u` must follow. -/
  | pairLetter (high : Nat)
deriving DecidableEq, Repr

/-- What the four digits of an escape amount to. -/
inductive HexResult where
  | char (value : Nat)
  | firstOfPair (unit : Nat)
  | refused (cause : Cause)

/-- Judges the digits (reversed) of an escape that follows `high`, if a pair is open. -/
def hexResult (high : Option Nat) (digits : List UInt8) : HexResult :=
  match hexNumber? digits.reverse, high with
  | none, _ => .refused .badEscape
  | some unit, none =>
    if isLowSurrogate unit then .refused .loneSurrogate
    else if isHighSurrogate unit then .firstOfPair unit
    else .char unit
  | some unit, some first =>
    if isLowSurrogate unit then .char (pairValue first unit) else .refused .loneSurrogate

/-- Reads on inside a string to its closing quote; `out` holds the bytes so far, reversed. -/
def scanString (out : List UInt8) : StringState → Bytes → Except Stop (List UInt8 × Bytes)
  | _, [] => stopAtEnd .endInString
  | state, b :: rest =>
    match state with
    | .plain =>
      if b = 0x22 then .ok (out.reverse, rest)
      else if b = 0x5C then scanString out .escape rest
      else if b < 0x20 then stopBefore .controlCharacter rest
      else scanString (b :: out) .plain rest
    | .escape =>
      if b = 0x75 then scanString out (.hex none []) rest
      else
        match shortEscape? b with
        | some byte => scanString (byte :: out) .plain rest
        | none => stopBefore .badEscape rest
    | .hex high digits =>
      if digits.length < 3 then scanString out (.hex high (b :: digits)) rest
      else
        match hexResult high (b :: digits) with
        | .char value => scanString (reversedUtf8 value ++ out) .plain rest
        | .firstOfPair unit => scanString out (.pairBackslash unit) rest
        | .refused cause => stopBefore cause rest
    | .pairBackslash high =>
      if b = 0x5C then scanString out (.pairLetter high) rest
      else stopBefore .hexEscapeEnds rest
    | .pairLetter high =>
      if b = 0x75 then scanString out (.hex (some high) []) rest
      else stopBefore .hexEscapeEnds rest

/-- Reads a string whose opening quote has been read.  Once its end has been found, one that is
not UTF-8 is refused: as far before its closing quote as the first wrong byte stands before
the end of the string's bytes, escapes resolved. -/
def readString (input : Bytes) : Except Stop (String × Bytes) :=
  match scanString [] .plain input with
  | .error stop => .error stop
  | .ok (bytes, rest) =>
    match Utf8.decode bytes with
    | .ok text => .ok (text, rest)
    | .error fault =>
      .error ⟨.badCodePoint, rest.length + (bytes.length - fault.validUpTo)⟩

end EngineBridge.Json
