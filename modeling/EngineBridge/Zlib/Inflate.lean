import EngineBridge.Zlib.Code
/-!
# Inflating: the blocks of a `ZlibDecoder`

A stream is a sequence of blocks: stored bytes, or literals and back references under a
fixed code or under one that the block begins with.  A reference that reaches before the first
byte is corrupt.  Output is refused beyond a limit.

The counts that bound the loops start at the number of bits of the input; each block and
each symbol takes at least one.
-/

namespace EngineBridge.Zlib

def endOfBlock : Nat := 256

inductive Meaning where
  /-- A byte that stands for itself. -/
  | literal (b : UInt8)
  /-- The end of the block. -/
  | ends
  /-- A reference to earlier bytes, with the symbol of its length. -/
  | reference (symbol : Nat)

def meaning (symbol : Nat) : Meaning :=
  if symbol < endOfBlock then .literal (UInt8.ofNat symbol)
  else if symbol = endOfBlock then .ends
  else .reference (symbol - endOfBlock - 1)

/-- Least copy length, and how many further bits it has, of each length symbol. -/
def lengthTable : Array (Nat × Nat) :=
  #[(3, 0), (4, 0), (5, 0), (6, 0), (7, 0), (8, 0), (9, 0), (10, 0), (11, 1), (13, 1), (15, 1),
    (17, 1), (19, 2), (23, 2), (27, 2), (31, 2), (35, 3), (43, 3), (51, 3), (59, 3), (67, 4),
    (83, 4), (99, 4), (115, 4), (131, 5), (163, 5), (195, 5), (227, 5), (258, 0)]

/-- Least distance, and how many further bits it has, of each distance symbol. -/
def distanceTable : Array (Nat × Nat) :=
  #[(1, 0), (2, 0), (3, 0), (4, 0), (5, 1), (7, 1), (9, 2), (13, 2), (17, 3), (25, 3), (33, 4),
    (49, 4), (65, 5), (97, 5), (129, 6), (193, 6), (257, 7), (385, 7), (513, 8), (769, 8),
    (1025, 9), (1537, 9), (2049, 10), (3073, 10), (4097, 11), (6145, 11), (8193, 12),
    (12289, 12), (16385, 13), (24577, 13)]

/-- Reads the amount of a symbol of a table. -/
def readAmount (table : Array (Nat × Nat)) (symbol : Nat) (bits : Bits) :
    Except Fault (Nat × Bits) :=
  match table[symbol]? with
  | none => .error .corrupt
  | some (least, width) => do
    let (more, bits) ← bits.number width
    return (least + more, bits)

def copyBack (limit distance : Nat) : Nat → Array UInt8 → Except Fault (Array UInt8)
  | 0, out => .ok out
  | length + 1, out =>
    if limit ≤ out.size then .error .tooLong
    else
      match out[out.size - distance]? with
      | some b =>
        if distance ≤ out.size then copyBack limit distance length (out.push b)
        else .error .corrupt
      | none => .error .corrupt

/-- Reads a reference behind the symbol of its length: how many bytes are repeated, and from how far
back. -/
def readReference (distances : Code) (symbol : Nat) (bits : Bits) :
    Except Fault ((Nat × Nat) × Bits) := do
  let (length, bits) ← readAmount lengthTable symbol bits
  let (mark, bits) ← distances.decode bits
  let (distance, bits) ← readAmount distanceTable mark bits
  return ((length, distance), bits)

/-- Reads literals and references to the end of the block. -/
def inflateSymbols (limit : Nat) (literals distances : Code) :
    Nat → Array UInt8 → Bits → Except Fault (Array UInt8 × Bits)
  | 0, _, _ => .error .incomplete
  | count + 1, out, bits =>
    match literals.decode bits with
    | .error fault => .error fault
    | .ok (symbol, bits) =>
      match meaning symbol with
      | .literal b =>
        if limit ≤ out.size then .error .tooLong
        else inflateSymbols limit literals distances count (out.push b) bits
      | .ends => .ok (out, bits)
      | .reference symbol =>
        match readReference distances symbol bits with
        | .error fault => .error fault
        | .ok ((length, distance), bits) =>
          match copyBack limit distance length out with
          | .error fault => .error fault
          | .ok out => inflateSymbols limit literals distances count out bits

def fixedLiterals : Code :=
  .ofLengths
    (List.replicate 144 8 ++ List.replicate 112 9 ++ List.replicate 24 7 ++ List.replicate 8 8)

def fixedDistances : Code := .ofLengths (List.replicate 32 5)

/-- The order in which a block gives the lengths of the code for its code lengths. -/
def lengthOrder : List Nat :=
  [16, 17, 18, 0, 8, 7, 9, 6, 10, 5, 11, 4, 12, 3, 13, 2, 14, 1, 15]

def readTriples : Nat → Bits → Except Fault (List Nat × Bits)
  | 0, bits => .ok ([], bits)
  | n + 1, bits => do
    let (value, bits) ← bits.number 3
    let (values, bits) ← readTriples n bits
    return (value :: values, bits)

/-- Reads a symbol of the code for code lengths; where that code has no words, each bit stands
for a zero. -/
def readLengthSymbol (code : Code) (bits : Bits) : Except Fault (Nat × Bits) :=
  if code.symbols.isEmpty then do
    let (_, bits) ← bits.next
    return (0, bits)
  else code.decode bits

/-- Reads code lengths until there are `wanted`; `done` holds those read, reversed.  Symbol
16 repeats the last length, 17 and 18 stand for runs of zeros. -/
def readLengths (code : Code) (wanted : Nat) :
    Nat → List Nat → Bits → Except Fault (List Nat × Bits)
  | 0, _, _ => .error .incomplete
  | count + 1, done, bits =>
    if done.length = wanted then .ok (done.reverse, bits)
    else if wanted < done.length then .error .corrupt
    else do
      let (symbol, bits) ← readLengthSymbol code bits
      if symbol < 16 then readLengths code wanted count (symbol :: done) bits
      else if symbol = 16 then
        let (more, bits) ← bits.number 2
        match done with
        | [] => .error .corrupt
        | last :: _ => readLengths code wanted count (List.replicate (3 + more) last ++ done) bits
      else if symbol = 17 then
        let (more, bits) ← bits.number 3
        readLengths code wanted count (List.replicate (3 + more) 0 ++ done) bits
      else
        let (more, bits) ← bits.number 7
        readLengths code wanted count (List.replicate (11 + more) 0 ++ done) bits

/-- A code is refused when it is not full, unless it has no words or a single one of one bit. -/
def checkCode (code : Code) : Except Fault Code :=
  if code.isFull || (code.symbols.size ≤ 1 && code.counts.headD 0 = code.symbols.size) then
    .ok code
  else .error .corrupt

/-- A code of literals must have a word that ends the block. -/
def checkLiterals (code : Code) : Except Fault Code :=
  if code.symbols.contains endOfBlock then checkCode code else .error .corrupt

/-- The code for code lengths whose words have the given lengths, in the order of a block. -/
def lengthCodeOf (triples : List Nat) : Code :=
  .ofLengths <| (List.range 19).map fun symbol => ((lengthOrder.zip triples).lookup symbol).getD 0

/-- Reads the two codes that a block begins with. -/
def readCodes (count : Nat) (bits : Bits) : Except Fault (Code × Code × Bits) := do
  let (moreLiterals, bits) ← bits.number 5
  let (moreDistances, bits) ← bits.number 5
  let (moreLengths, bits) ← bits.number 4
  let literalCount := 257 + moreLiterals
  let distanceCount := 1 + moreDistances
  if 286 < literalCount || 30 < distanceCount then .error .corrupt
  else
    let (triples, bits) ← readTriples (4 + moreLengths) bits
    let lengthCode := lengthCodeOf triples
    if !(lengthCode.isFull || lengthCode.symbols.isEmpty) then .error .corrupt
    else
      let (lengths, bits) ← readLengths lengthCode (literalCount + distanceCount) count [] bits
      let literals ← checkLiterals (.ofLengths (lengths.take literalCount))
      let distances ← checkCode (.ofLengths (lengths.drop literalCount))
      return (literals, distances, bits)

def copyStored (limit : Nat) : Nat → Array UInt8 → List UInt8 →
    Except Fault (Array UInt8 × List UInt8)
  | 0, out, bytes => .ok (out, bytes)
  | _ + 1, _, [] => .error .incomplete
  | length + 1, out, b :: bytes =>
    if limit ≤ out.size then .error .tooLong
    else copyStored limit length (out.push b) bytes

/-- Reads a stored block: its length twice, the second time inverted, and its bytes. -/
def inflateStored (limit : Nat) (out : Array UInt8) (bits : Bits) :
    Except Fault (Array UInt8 × Bits) :=
  match bits.aligned with
  | a :: b :: c :: d :: bytes =>
    let length := a.toNat + 256 * b.toNat
    if length + (c.toNat + 256 * d.toNat) = 65535 then do
      let (out, bytes) ← copyStored limit length out bytes
      return (out, .ofBytes bytes)
    else .error .corrupt
  | _ => .error .incomplete

def inflateBlock (limit count kind : Nat) (out : Array UInt8) (bits : Bits) :
    Except Fault (Array UInt8 × Bits) :=
  match kind with
  | 0 => inflateStored limit out bits
  | 1 => inflateSymbols limit fixedLiterals fixedDistances count out bits
  | 2 => do
    let (literals, distances, bits) ← readCodes count bits
    inflateSymbols limit literals distances count out bits
  | _ => .error .corrupt

def inflateBlocks (limit count : Nat) :
    Nat → Array UInt8 → Bits → Except Fault (Array UInt8 × Bits)
  | 0, _, _ => .error .incomplete
  | blocks + 1, out, bits => do
    let (last, bits) ← bits.number 1
    let (kind, bits) ← bits.number 2
    let (out, bits) ← inflateBlock limit count kind out bits
    if last = 1 then return (out, bits) else inflateBlocks limit count blocks out bits

end EngineBridge.Zlib
