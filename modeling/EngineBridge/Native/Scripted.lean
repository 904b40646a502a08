import EngineBridge.Native.Library
import EngineBridge.Native.Loading
/-!
# Libraries without an engine behind them

The functions of a `Script` do only what the script says, and it notes what they were given.  It
shows how the bridge behaves with any library, well-behaved or not.

`Echo` is the least that a library can be: it answers each request with the request's own text
before its call returns, and one that begins with an exclamation mark with a status; it has no
codec and never an error detail.  It acts on no state, so it can stand beside any other.
-/

namespace EngineBridge

inductive CodecArguments where
  | encode (tag text : CText)
  | decode (tag : CText) (bytes : List UInt8)
deriving DecidableEq

/-- What the slots of a call are made to hold. -/
inductive SlotScript where
  | leave
  | null (length : Nat)
  | bytes (bytes : List UInt8)
deriving DecidableEq, Repr

structure Script where
  /-- The status of codec calls. -/
  status : Status
  /-- What codec calls write. -/
  out : SlotScript
  /-- The detail that is held; reading it once uses it up. -/
  detail : SlotScript
  /-- How the next request is answered before its call returns, if it is. -/
  inline : Option (Status × Option CText)
  /-- The requests that arrived, in order. -/
  requests : List (Token × CText)
  /-- The codec calls that arrived, in order. -/
  codecCalls : List CodecArguments
  released : Nat
  detailReads : Nat
  nextAddress : Nat

namespace Script

/-- A script without anything to do. -/
def empty : Script := ⟨.ok, .leave, .leave, none, [], [], 0, 0, 1⟩

def write (slots : SlotScript) (s : Script) : OutSlots × Script :=
  match slots with
  | .leave => (.untouched, s)
  | .null length => (.null length, s)
  | .bytes bytes =>
    (.written ⟨s.nextAddress, bytes⟩, { s with nextAddress := s.nextAddress + 1 })

/-- Answers a codec call. -/
def codec (arguments : CodecArguments) (s : Script) : (Status × OutSlots) × Script :=
  let (out, s) := { s with codecCalls := s.codecCalls ++ [arguments] }.write s.out
  ((s.status, out), s)

def library : NativeLibrary Script where
  execute context request s :=
    let s := { s with requests := s.requests ++ [(context, request)] }
    match s.inline with
    | none => ([], s)
    | some (status, response) => ([⟨0, context, status, response⟩], { s with inline := none })
  decode _ tag bytes := codec (.decode tag bytes)
  encode _ tag text := codec (.encode tag text)
  takeLastError _ s :=
    { s with detailReads := s.detailReads + 1, detail := .leave }.write s.detail
  release _ s := { s with released := s.released + 1 }

end Script

end EngineBridge

/-! ## The least of libraries -/

namespace EngineBridge.Echo

def refusedStatus : Status := 9

def decodeStatus : Status := 6

def encodeStatus : Status := 7

def engineAddress : Nat := 1

/-- How a request is answered. -/
def reply (context : Token) (request : CText) : Callback :=
  match request.bytes with
  | 0x21 :: _ => ⟨0, context, refusedStatus, none⟩
  | _ => ⟨0, context, .ok, some request⟩

def functions {σ : Type} : NativeLibrary σ where
  execute context request s := ([reply context request], s)
  decode _ _ _ s := ((decodeStatus, .untouched), s)
  encode _ _ _ s := ((encodeStatus, .untouched), s)
  takeLastError _ s := (.untouched, s)
  release _ s := s

/-- A library file of these functions with some symbols, whose engine is made or not
according to the first byte of its configuration. -/
def file {σ : Type} (symbols : List String) (makes : Option UInt8 → Bool) : LibraryFile σ where
  symbols := symbols
  functions := functions
  makeEngine _ config s := (if makes config.bytes.head? then some engineAddress else none, s)

end EngineBridge.Echo
