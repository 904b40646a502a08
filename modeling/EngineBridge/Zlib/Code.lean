/-!
# Bits and prefix codes

Bits are taken from each byte lowest first; numbers are read with their lowest bit first.

A code is given by the length of each symbol's word, zero for a symbol without one.  Words
of one length are consecutive numbers in symbol order and longer words follow shorter ones,
so together they cover an initial part of all bit strings: `span` says how much of it, in
units of a word of fifteen bits.  A code is full when it covers everything.
-/

namespace EngineBridge.Zlib

-- Powers are core's, also where Mathlib has brought its own.
attribute [local instance (20000)] instPowNat

inductive Fault where
  /-- The stream contradicts its own format. -/
  | corrupt
  /-- The bytes end before the stream does. -/
  | incomplete
  /-- The stream holds more bytes than allowed. -/
  | tooLong
deriving DecidableEq, Repr

/-- A byte string read bit by bit: the unread bits of the current byte, and the bytes after
it. -/
structure Bits where
  held : Nat
  count : Nat
  bytes : List UInt8
deriving DecidableEq, Repr

namespace Bits

def ofBytes (bytes : List UInt8) : Bits := ⟨0, 0, bytes⟩

def next (bits : Bits) : Except Fault (Nat × Bits) :=
  match bits with
  | ⟨held, count + 1, bytes⟩ => .ok (held % 2, ⟨held / 2, count, bytes⟩)
  | ⟨_, 0, b :: bytes⟩ => .ok (b.toNat % 2, ⟨b.toNat / 2, 7, bytes⟩)
  | ⟨_, 0, []⟩ => .error .incomplete

def number : Nat → Bits → Except Fault (Nat × Bits)
  | 0, bits => .ok (0, bits)
  | n + 1, bits => do
    let (low, bits) ← bits.next
    let (high, bits) ← number n bits
    return (low + 2 * high, bits)

/-- The bytes after the current one; what is left of it is dropped. -/
def aligned (bits : Bits) : List UInt8 := bits.bytes

end Bits

/-! ## Prefix codes -/

def greatestLength : Nat := 15

/-- A prefix code. -/
structure Code where
  /-- How many words have each length from one on. -/
  counts : List Nat
  /-- The symbols by length of their words, then by value. -/
  symbols : Array Nat
deriving Repr

namespace Code

/-- The code in which symbol `i` has a word of the `i`th length. -/
def ofLengths (lengths : List Nat) : Code :=
  let sizes := (List.range greatestLength).map (· + 1)
  let symbolsOf (size : Nat) : List Nat :=
    (lengths.zipIdx.filter fun entry => entry.1 = size).map (·.2)
  ⟨sizes.map fun size => (symbolsOf size).length, (sizes.flatMap symbolsOf).toArray⟩

/-- How many fifteen-bit strings begin with a word, for counts of words of increasing
length that start at `greatestLength + 1 - counts.length`. -/
def spanOf : List Nat → Nat
  | [] => 0
  | count :: longer => count * 2 ^ longer.length + spanOf longer

/-- How many fifteen-bit strings begin with a word of the code. -/
def span (code : Code) : Nat := spanOf code.counts

/-- Whether every bit string begins with exactly one word. -/
def isFull (code : Code) : Bool := code.span = 2 ^ greatestLength

/-- Reads on inside a word: `value` is the number of the bits so far, `first` that of the
first word of the next length, `index` the place of its symbol. -/
def decodeFrom (code : Code) : List Nat → (value first index : Nat) → Bits →
    Except Fault (Nat × Bits)
  | [], _, _, _, _ => .error .corrupt
  | count :: longer, value, first, index, bits => do
    let (bit, bits) ← bits.next
    let value := 2 * value + bit
    if code.span ≤ value * 2 ^ longer.length then .error .corrupt
    else if value < first + count then return (code.symbols.getD (index + (value - first)) 0, bits)
    else decodeFrom code longer value (2 * (first + count)) (index + count) bits

/-- Reads one word and answers its symbol. -/
def decode (code : Code) (bits : Bits) : Except Fault (Nat × Bits) :=
  code.decodeFrom code.counts 0 0 0 bits

end Code

end EngineBridge.Zlib
