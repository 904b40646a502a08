import EngineBridge.Bridge.Error
import EngineBridge.Text.Utf8
/-!
# Texts and buffers at the boundary: `OutBuffer` and `OwnedBuffer`

A C text is a byte string without a nul; in memory a nul ends it.  A text with a nul inside
is refused on its way out, never cut short.

A native call hands bytes out through two slots, a pointer and a length.  A pointer that is
not null makes a buffer, which its owner must give back; a null pointer with length zero
means that there is none; a null pointer with any other length breaks the rules.
-/

/-! ## Texts -/

namespace EngineBridge

/-- A byte string that holds no nul. -/
structure CText where
  bytes : List UInt8
  noNul : 0 ∉ bytes
deriving DecidableEq

namespace CText

/-- Memory that holds the text and the nul that ends it. -/
def toMemory (text : CText) : List UInt8 := text.bytes ++ [0]

/-- The text at the start of some memory: the bytes before the first nul. -/
def ofMemory (memory : List UInt8) : CText :=
  ⟨memory.takeWhile (· ≠ 0), by
    intro h
    have := List.all_eq_true.1 List.all_takeWhile 0 h
    simp at this⟩

/-- The bytes as a C text, or the offset of the first nul. -/
def ofBytes (bytes : List UInt8) : Except Nat CText :=
  if h : 0 ∈ bytes then .error (bytes.takeWhile (· ≠ 0)).length else .ok ⟨bytes, h⟩

def decode (text : CText) : Except Utf8.Fault String := Utf8.decode text.bytes

end CText

def CText.refusal (offset : Nat) : BridgeError :=
  .invalidText ("text contains a nul byte at offset " ++ toString offset)

/-- `to_c_text`: a text on its way to the engine. -/
def toCText (text : String) : Except BridgeError CText :=
  (CText.ofBytes (Utf8.encode text)).mapError CText.refusal

/-- `read_c_text`: a text that came from the engine. -/
def readCText (text : CText) : Except BridgeError String :=
  match text.decode with
  | .ok text => .ok text
  | .error fault => .error (.invalidText ("native text is not UTF-8: " ++ fault.message))

/-! ## Buffers -/

/-- `OwnedBuffer`: bytes allocated by a native library, and where they lie. -/
structure Buffer where
  address : Nat
  bytes : List UInt8
deriving DecidableEq, Repr

/-- `OutBuffer`: what the two slots hold after a call. -/
inductive OutSlots where
  | null (length : Nat)
  | written (buffer : Buffer)
deriving DecidableEq, Repr

/-- What the slots hold before a call. -/
def OutSlots.untouched : OutSlots := .null 0

/-- `OwnedBuffer::from_raw`: takes ownership of whatever the slots hold. -/
def OutSlots.take : OutSlots → Except Violation (Option Buffer)
  | .written buffer => .ok (some buffer)
  | .null 0 => .ok none
  | .null length => .error (.nullBuffer length)

namespace Buffer

def length (buffer : Buffer) : Nat := buffer.bytes.length

def isEmpty (buffer : Buffer) : Bool := buffer.length = 0

def sameBytes (a b : Buffer) : Bool := a.bytes = b.bytes

def decode (buffer : Buffer) : Except BridgeError String :=
  match Utf8.decode buffer.bytes with
  | .ok text => .ok text
  | .error fault => .error (.invalidText ("native buffer is not UTF-8: " ++ fault.message))

/-- The bytes as a text, with replacements for what is no UTF-8. -/
def lossyText (buffer : Buffer) : String := Utf8.decodeLossy buffer.bytes

/-- How a buffer is shown: its length alone. -/
def display (buffer : Buffer) : String :=
  "OwnedBuffer \x7b len: " ++ toString buffer.length ++ " \x7d"

end Buffer

end EngineBridge
