/-!
# UTF-8

Byte strings are `List UInt8`.  One automaton reads them: outside a sequence a byte is an
ASCII character, the lead of a longer sequence, or wrong; inside a sequence the next byte
must lie between two bounds that the lead fixes (so overlong forms, surrogates and code
points above `10FFFF` are never begun).

* `decode` — the text of a byte string, or the fault that ends it;
* `decodeLossy` — the text with every faulty stretch replaced by `U+FFFD`;
* `encode` — the bytes of a text.
-/

namespace EngineBridge.Utf8

/-- Where and how a byte string stops being UTF-8. -/
structure Fault where
  /-- Length of the longest valid prefix. -/
  validUpTo : Nat
  /-- Length of the wrong sequence, or `none` when the bytes end inside a sequence. -/
  width : Option Nat
deriving DecidableEq, Repr

def Fault.message (fault : Fault) : String :=
  match fault.width with
  | some width =>
    "invalid utf-8 sequence of " ++ toString width ++ " bytes from index "
      ++ toString fault.validUpTo
  | none => "incomplete utf-8 byte sequence from index " ++ toString fault.validUpTo

structure Begun where
  /-- Bits of the code point read so far. -/
  value : Nat
  /-- Bytes read so far. -/
  taken : Nat
  /-- Bytes still missing, at least one. -/
  missing : Nat
  /-- Least value of the next byte. -/
  low : UInt8
  /-- Greatest value of the next byte. -/
  high : UInt8
deriving DecidableEq, Repr

/-- What a byte outside any sequence is. -/
inductive Lead where
  | ascii (c : Char)
  | begins (begun : Begun)
  | wrong
deriving DecidableEq, Repr

def lead (b : UInt8) : Lead :=
  if b < 0x80 then .ascii (Char.ofNat b.toNat)
  else if b < 0xC2 then .wrong
  else if b < 0xE0 then .begins ⟨b.toNat - 0xC0, 1, 1, 0x80, 0xBF⟩
  else if b < 0xF0 then
    .begins ⟨b.toNat - 0xE0, 1, 2, if b = 0xE0 then 0xA0 else 0x80, if b = 0xED then 0x9F else 0xBF⟩
  else if b < 0xF5 then
    .begins ⟨b.toNat - 0xF0, 1, 3, if b = 0xF0 then 0x90 else 0x80, if b = 0xF4 then 0x8F else 0xBF⟩
  else .wrong

/-- Whether `b` continues the sequence. -/
def Begun.accepts (s : Begun) (b : UInt8) : Bool :=
  s.low ≤ b && b ≤ s.high

/-- The code point bits once `b` has been read too. -/
def Begun.valueWith (s : Begun) (b : UInt8) : Nat :=
  s.value * 64 + (b.toNat - 0x80)

/-- The sequence once `b` has been read too; later bytes are plain continuation bytes. -/
def Begun.next (s : Begun) (b : UInt8) : Begun :=
  ⟨s.valueWith b, s.taken + 1, s.missing - 1, 0x80, 0xBF⟩

/-- Reads on from a state: `out` is the text so far, `start` the index at which the current
sequence begins. -/
def decodeFrom (out : String) (start : Nat) : Option Begun → List UInt8 → Except Fault String
  | none, [] => .ok out
  | some _, [] => .error ⟨start, none⟩
  | none, b :: rest =>
    match lead b with
    | .ascii c => decodeFrom (out.push c) (start + 1) none rest
    | .begins s => decodeFrom out start (some s) rest
    | .wrong => .error ⟨start, some 1⟩
  | some s, b :: rest =>
    if s.accepts b then
      if s.missing ≤ 1 then
        decodeFrom (out.push (Char.ofNat (s.valueWith b))) (start + s.taken + 1) none rest
      else decodeFrom out start (some (s.next b)) rest
    else .error ⟨start, some s.taken⟩

/-- The text whose UTF-8 form the bytes are. -/
def decode (bytes : List UInt8) : Except Fault String :=
  decodeFrom "" 0 none bytes

/-- Reads on from a state, writing `U+FFFD` for each faulty stretch.  A byte that fails to
continue a sequence is looked at again as a lead. -/
def decodeLossyFrom (out : String) : Option Begun → List UInt8 → String
  | none, [] => out
  | some _, [] => out.push '\uFFFD'
  | state, b :: rest =>
    match state with
    | none =>
      match lead b with
      | .ascii c => decodeLossyFrom (out.push c) none rest
      | .begins s => decodeLossyFrom out (some s) rest
      | .wrong => decodeLossyFrom (out.push '\uFFFD') none rest
    | some s =>
      if s.accepts b then
        if s.missing ≤ 1 then
          decodeLossyFrom (out.push (Char.ofNat (s.valueWith b))) none rest
        else decodeLossyFrom out (some (s.next b)) rest
      else
        match lead b with
        | .ascii c => decodeLossyFrom ((out.push '\uFFFD').push c) none rest
        | .begins s => decodeLossyFrom (out.push '\uFFFD') (some s) rest
        | .wrong => decodeLossyFrom ((out.push '\uFFFD').push '\uFFFD') none rest

/-- The text of the bytes, with `U+FFFD` for each stretch that is not UTF-8. -/
def decodeLossy (bytes : List UInt8) : String :=
  decodeLossyFrom "" none bytes

def encode (text : String) : List UInt8 :=
  text.toUTF8.data.toList

def encodeChar (c : Char) : List UInt8 :=
  String.utf8EncodeChar c

end EngineBridge.Utf8
