import EngineBridge.EngineError
import EngineBridge.Json.Reader
import EngineBridge.Zlib.Stream
/-!
# Frames: `encode` and `decode`

A frame is a magic number, the length of a type tag in two bytes (highest first), the tag,
and a zlib stream of canonical JSON text.  `encode` writes the canonical form of any JSON
text; `decode` checks every part and answers the canonical text.  Which of the streams that hold
a text is written is left to a compressor (`encodeWith`); `encode` takes the one that stores.
-/

namespace EngineBridge.Frame

def magic : List UInt8 := [0x43, 0x44, 0x54, 0x01]

/-- `HEADER_LEN`: the magic number and the tag's length together. -/
def headerLength : Nat := 6

/-- Greatest length of a tag in bytes. -/
def greatestTag : Nat := 65535

/-- `MAX_PAYLOAD`: greatest length of the text in a frame. -/
def greatestPayload : Nat := 16 * 1024 * 1024

/-- A frame's bytes: magic number, tag, and a stream. -/
def assemble (tag stream : List UInt8) : List UInt8 :=
  magic ++ UInt8.ofNat (tag.length / 256) :: UInt8.ofNat (tag.length % 256) :: (tag ++ stream)

/-- The frame of a JSON text under a tag, its payload compressed. -/
def encodeWith (compress : List UInt8 → List UInt8) (tag text : String) :
    Except EngineError (List UInt8) :=
  if tag = "" then .error (.invalidArgument "empty type tag")
  else
    match Json.readText text with
    | .error error => .error (.invalidArgument ("text is not JSON: " ++ error.message))
    | .ok value =>
      let tagBytes := Utf8.encode tag
      if greatestTag < tagBytes.length then
        .error (.invalidArgument "type tag longer than 65535 bytes")
      else .ok (assemble tagBytes (compress (Utf8.encode value.text)))

/-- `encode`: the frame of a JSON text under a tag. -/
def encode (tag text : String) : Except EngineError (List UInt8) :=
  encodeWith Zlib.store tag text

/-- Whether a stream that holds too much is found to be corrupt before it gives its second byte
behind the greatest payload. -/
def breaksBehindLimit (stream : List UInt8) : Bool :=
  match Zlib.inflate (greatestPayload + 1) stream with
  | .error .corrupt => true
  | _ => false

/-- The payload of the stream at the front of the bytes. -/
def inflate (stream : List UInt8) : Except EngineError (List UInt8) :=
  match Zlib.inflate greatestPayload stream with
  | .ok (payload, _) => .ok payload
  | .error .corrupt => .error (.corrupt "payload: corrupt deflate stream")
  | .error .incomplete => .error (.corrupt "payload: incomplete deflate stream")
  | .error .tooLong =>
    if breaksBehindLimit stream then .error (.corrupt "payload: corrupt deflate stream")
    else .error (.corrupt "payload exceeds size limit")

def canonical (payload : List UInt8) : Except EngineError String :=
  match Json.read payload with
  | .ok value => .ok value.text
  | .error error => .error (.corrupt ("payload is not JSON: " ++ error.message))

/-- Splits what follows the tag's length into a tag of that length and a stream. -/
def splitTag (length : Nat) (body : List UInt8) :
    Except EngineError (List UInt8 × List UInt8) :=
  if body.length < length then .error (.corrupt "truncated type tag")
  else .ok (body.splitAt length)

/-- `decode`: the canonical text in a frame of the tag. -/
def decode (tag : String) (bytes : List UInt8) : Except EngineError String :=
  if tag = "" then .error (.invalidArgument "empty type tag")
  else
    match bytes with
    | a :: b :: c :: d :: high :: low :: body =>
      if [a, b, c, d] ≠ magic then .error (.corrupt "bad magic")
      else do
        let (held, stream) ← splitTag (high.toNat * 256 + low.toNat) body
        if held ≠ Utf8.encode tag then
          .error (.corrupt ("frame holds " ++ Utf8.decodeLossy held ++ ", expected " ++ tag))
        else canonical (← inflate stream)
    | _ =>
      .error (.corrupt ("frame is " ++ toString bytes.length
        ++ " bytes, shorter than the 6-byte header"))

/-- The parts of a frame: magic number, tag, and payload. -/
structure Parts where
  magic : List UInt8
  tag : List UInt8
  payload : List UInt8
deriving DecidableEq, Repr

/-- The parts of a byte string that begins with a frame's magic number. -/
def parts? (bytes : List UInt8) : Option Parts :=
  match bytes with
  | a :: b :: c :: d :: high :: low :: body =>
    let length := high.toNat * 256 + low.toNat
    if [a, b, c, d] = magic ∧ length ≤ body.length then
      match Zlib.inflate greatestPayload (body.drop length) with
      | .ok (payload, _) => some ⟨[a, b, c, d], body.take length, payload⟩
      | .error _ => none
    else none
  | _ => none

end EngineBridge.Frame
