import EngineBridge.Zlib.Inflate
/-!
# Zlib streams: `ZlibDecoder` and `ZlibEncoder`

A stream is a two-byte header, blocks, and a checksum of the bytes that the blocks hold.
`inflate` answers these bytes and what follows the stream; `store` makes a stream of stored
blocks.
-/

namespace EngineBridge.Zlib

def checksumModulus : Nat := 65521

/-- The two running sums of the checksum. -/
structure Checksum where
  bytes : Nat
  sums : Nat
deriving DecidableEq, Repr

namespace Checksum

def initial : Checksum := ⟨1, 0⟩

def add (sum : Checksum) (b : UInt8) : Checksum :=
  let bytes := (sum.bytes + b.toNat) % checksumModulus
  ⟨bytes, (sum.sums + bytes) % checksumModulus⟩

def ofBytes (bytes : List UInt8) : Checksum := bytes.foldl add initial

/-- The four bytes that hold the checksum, highest first. -/
def toBytes (sum : Checksum) : List UInt8 :=
  [UInt8.ofNat (sum.sums / 256), UInt8.ofNat (sum.sums % 256),
    UInt8.ofNat (sum.bytes / 256), UInt8.ofNat (sum.bytes % 256)]

end Checksum

/-- Whether two bytes are a header: method 8, a window of at most 32 KiB, no preset
dictionary, and a check that makes the pair a multiple of 31. -/
def isHeader (method flags : UInt8) : Bool :=
  method.toNat % 16 = 8 && method.toNat / 16 ≤ 7 && flags.toNat / 32 % 2 = 0 &&
    (method.toNat * 256 + flags.toNat) % 31 = 0

/-- The bytes that a stream at the front holds, at most `limit`, and what follows it. -/
def inflate (limit : Nat) (input : List UInt8) : Except Fault (List UInt8 × List UInt8) :=
  match input with
  | method :: flags :: body =>
    if isHeader method flags then do
      let count := 8 * input.length + 1
      let (out, bits) ← inflateBlocks limit count count #[] (.ofBytes body)
      match bits.aligned with
      | a :: b :: c :: d :: rest =>
        let held := out.toList
        if (Checksum.ofBytes held).toBytes = [a, b, c, d] then return (held, rest)
        else .error .corrupt
      | _ => .error .incomplete
    else .error .corrupt
  | _ => .error .incomplete

def greatestStored : Nat := 65535

def storedBlock (last : Bool) (bytes : List UInt8) : List UInt8 :=
  let length := bytes.length
  let inverse := greatestStored - length
  (if last then 1 else 0) :: UInt8.ofNat (length % 256) :: UInt8.ofNat (length / 256) ::
    UInt8.ofNat (inverse % 256) :: UInt8.ofNat (inverse / 256) :: bytes

/-- Stored blocks that hold the bytes, each but the last as long as it can be. -/
def storedBlocks (bytes : List UInt8) : List UInt8 :=
  let rest := bytes.drop greatestStored
  if _h : rest = [] then storedBlock true bytes
  else storedBlock false (bytes.take greatestStored) ++ storedBlocks rest
termination_by bytes.length
decreasing_by
  have := List.length_pos_iff.2 _h
  simp only [rest, List.length_drop, greatestStored] at this ⊢
  omega

/-- A stream that holds the bytes. -/
def store (bytes : List UInt8) : List UInt8 :=
  0x78 :: 0x01 :: storedBlocks bytes ++ (Checksum.ofBytes bytes).toBytes

end EngineBridge.Zlib
