import EngineBridge.Zlib.Stream
/-!
# The grammar of zlib streams

What a stream is, without a limit to what it holds and without a bound on how long it is read.
`Holds stream payload` says that a byte string is one stream, to its last byte, and what it holds.
A relation between two positions of the input says what stands between them; the output so far is
part of it, as back references reach into it.
-/

namespace EngineBridge.Zlib

/-- A number of bytes, each repeated from a distance before the end. -/
inductive Copies (distance : Nat) : Nat → Array UInt8 → Array UInt8 → Prop where
  | none {out : Array UInt8} : Copies distance 0 out out
  | byte {length : Nat} {out out' : Array UInt8} {b : UInt8} (reaches : distance ≤ out.size)
    (found : out[out.size - distance]? = some b) (more : Copies distance length (out.push b) out') :
    Copies distance (length + 1) out out'

/-- Literals and references up to the end of a block. -/
inductive Symbols (literals distances : Code) :
    Array UInt8 → Array UInt8 → Bits → Bits → Prop where
  | ends {out : Array UInt8} {symbol : Nat} {bits bits' : Bits}
    (read : literals.decode bits = .ok (symbol, bits')) (means : meaning symbol = .ends) :
    Symbols literals distances out out bits bits'
  | literal {out out' : Array UInt8} {symbol : Nat} {b : UInt8} {bits after bits' : Bits}
    (read : literals.decode bits = .ok (symbol, after)) (means : meaning symbol = .literal b)
    (more : Symbols literals distances (out.push b) out' after bits') :
    Symbols literals distances out out' bits bits'
  | copy {out copied out' : Array UInt8} {symbol mark length distance : Nat}
    {bits afterSymbol after bits' : Bits}
    (read : literals.decode bits = .ok (symbol, afterSymbol))
    (means : meaning symbol = .reference mark)
    (readRest : readReference distances mark afterSymbol = .ok ((length, distance), after))
    (copies : Copies distance length out copied)
    (more : Symbols literals distances copied out' after bits') :
    Symbols literals distances out out' bits bits'

/-- Code lengths up to the number wanted, those so far in reverse. -/
inductive Lengths (code : Code) (wanted : Nat) :
    List Nat → List Nat → Bits → Bits → Prop where
  | enough {done : List Nat} {bits : Bits} (all : done.length = wanted) :
    Lengths code wanted done done.reverse bits bits
  | one {done lengths : List Nat} {symbol : Nat} {bits after bits' : Bits}
    (short : done.length < wanted) (isLength : symbol < 16)
    (read : readLengthSymbol code bits = .ok (symbol, after))
    (more : Lengths code wanted (symbol :: done) lengths after bits') :
    Lengths code wanted done lengths bits bits'
  | again {last times : Nat} {done lengths : List Nat} {bits afterSymbol after bits' : Bits}
    (short : (last :: done).length < wanted)
    (read : readLengthSymbol code bits = .ok (16, afterSymbol))
    (readTimes : afterSymbol.number 2 = .ok (times, after))
    (more : Lengths code wanted (List.replicate (3 + times) last ++ last :: done) lengths
      after bits') :
    Lengths code wanted (last :: done) lengths bits bits'
  | zeros {times : Nat} {done lengths : List Nat} {bits afterSymbol after bits' : Bits}
    (short : done.length < wanted)
    (read : readLengthSymbol code bits = .ok (17, afterSymbol))
    (readTimes : afterSymbol.number 3 = .ok (times, after))
    (more : Lengths code wanted (List.replicate (3 + times) 0 ++ done) lengths after bits') :
    Lengths code wanted done lengths bits bits'
  | manyZeros {symbol times : Nat} {done lengths : List Nat} {bits afterSymbol after bits' : Bits}
    (short : done.length < wanted) (isRun : 17 < symbol)
    (read : readLengthSymbol code bits = .ok (symbol, afterSymbol))
    (readTimes : afterSymbol.number 7 = .ok (times, after))
    (more : Lengths code wanted (List.replicate (11 + times) 0 ++ done) lengths after bits') :
    Lengths code wanted done lengths bits bits'

/-- The two codes that a block begins with. -/
inductive Codes (literals distances : Code) : Bits → Bits → Prop where
  | read {moreLiterals moreDistances moreLengths : Nat} {triples lengths : List Nat}
    {bits afterLiterals afterDistances afterLengths afterTriples bits' : Bits}
    (readLiterals : bits.number 5 = .ok (moreLiterals, afterLiterals))
    (readDistances : afterLiterals.number 5 = .ok (moreDistances, afterDistances))
    (readCount : afterDistances.number 4 = .ok (moreLengths, afterLengths))
    (fewLiterals : 257 + moreLiterals ≤ 286) (fewDistances : 1 + moreDistances ≤ 30)
    (readCode : readTriples (4 + moreLengths) afterLengths = .ok (triples, afterTriples))
    (usable : (lengthCodeOf triples).isFull || (lengthCodeOf triples).symbols.isEmpty)
    (allLengths : Lengths (lengthCodeOf triples) (257 + moreLiterals + (1 + moreDistances)) []
      lengths afterTriples bits')
    (isLiterals : checkLiterals (.ofLengths (lengths.take (257 + moreLiterals))) = .ok literals)
    (isDistances : checkCode (.ofLengths (lengths.drop (257 + moreLiterals))) = .ok distances) :
    Codes literals distances bits bits'

/-- Stored bytes: their number twice, the second time inverted, and the bytes. -/
inductive Stored (out : Array UInt8) : Array UInt8 → Bits → Bits → Prop where
  | bytes {held count : Nat} {a b c d : UInt8} {bytes rest : List UInt8}
    (length : a.toNat + 256 * b.toNat = bytes.length)
    (inverse : bytes.length + (c.toNat + 256 * d.toNat) = 65535) :
    Stored out (out ++ bytes.toArray) ⟨held, count, a :: b :: c :: d :: (bytes ++ rest)⟩
      (.ofBytes rest)

/-- A block of a kind. -/
inductive Block (out out' : Array UInt8) : Nat → Bits → Bits → Prop where
  | stored {bits bits' : Bits} (bytes : Stored out out' bits bits') : Block out out' 0 bits bits'
  | fixed {bits bits' : Bits}
    (symbols : Symbols fixedLiterals fixedDistances out out' bits bits') :
    Block out out' 1 bits bits'
  | dynamic {literals distances : Code} {bits after bits' : Bits}
    (codes : Codes literals distances bits after)
    (symbols : Symbols literals distances out out' after bits') : Block out out' 2 bits bits'

/-- Blocks up to the last one. -/
inductive Blocks : Array UInt8 → Array UInt8 → Bits → Bits → Prop where
  | last {out out' : Array UInt8} {kind : Nat} {bits afterFlag after bits' : Bits}
    (isLast : bits.number 1 = .ok (1, afterFlag)) (isKind : afterFlag.number 2 = .ok (kind, after))
    (block : Block out out' kind after bits') : Blocks out out' bits bits'
  | further {out between out' : Array UInt8} {flag kind : Nat}
    {bits afterFlag after next bits' : Bits} (isFurther : flag ≠ 1)
    (isFlag : bits.number 1 = .ok (flag, afterFlag))
    (isKind : afterFlag.number 2 = .ok (kind, after)) (block : Block out between kind after next)
    (more : Blocks between out' next bits') : Blocks out out' bits bits'

/-- A whole stream and what it holds: a header, blocks, and the checksum of what they hold. -/
inductive Holds : List UInt8 → List UInt8 → Prop where
  | stream {method flags : UInt8} {body : List UInt8} {out : Array UInt8} {bits : Bits}
    (header : isHeader method flags = true) (blocks : Blocks #[] out (.ofBytes body) bits)
    (checksum : bits.aligned = (Checksum.ofBytes out.toList).toBytes) :
    Holds (method :: flags :: body) out.toList

end EngineBridge.Zlib
