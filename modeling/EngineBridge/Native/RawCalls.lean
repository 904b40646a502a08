import EngineBridge.Native.EngineSide
/-!
# Calls of the functions that hand out bytes: `conduit_encode` and its kind

What those who call an engine's functions see of them.  The out parameters of a call lead to two
slots in the caller's memory, one for a pointer and one for a length, which hold whatever they
held before; where a parameter is null there is no slot.  What was handed out is held until it is
given back, which may happen once.

Frames are compressed by a compressor that the calls are given.
-/

namespace EngineBridge

/-- The slots that the out parameters of a call lead to, each with what it holds. -/
structure OutMemory where
  pointer : Option Nat
  length : Option Nat
deriving DecidableEq, Repr

namespace OutMemory

def nowhere : Nat := 0

/-- The out parameters that lead to the slots. -/
def parameters (memory : OutMemory) : OutParameters :=
  ⟨memory.pointer.isNone, memory.length.isNone⟩

/-- The slots, as far as there are any, once a pointer and a length are written. -/
def holding (memory : OutMemory) (pointer length : Nat) : OutMemory :=
  ⟨memory.pointer.map fun _ => pointer, memory.length.map fun _ => length⟩

/-- The slots after a call that has written them, or has left them alone. -/
def after (memory : OutMemory) : Option OutSlots → OutMemory
  | none => memory
  | some (.null length) => memory.holding nowhere length
  | some (.written buffer) => memory.holding buffer.address buffer.length

end OutMemory

/-- What a call that makes bytes is asked for; an argument that is null is none.  Bytes that are
none have a length all the same. -/
inductive CodecRequest where
  | encode (tag text : Option CText)
  | decode (tag : Option CText) (bytes : Option (List UInt8)) (length : Nat)

/-- A call of one of the functions that hand out bytes or take them back. -/
inductive RawCall where
  | codec (thread : ThreadId) (request : CodecRequest) (out : OutMemory)
  | takeLastError (thread : ThreadId) (out : OutMemory)
  /-- Gives back what a pointer and a length denote. -/
  | release (slots : OutSlots)

/-- The thread that a call acts for. -/
def RawCall.thread? : RawCall → Option ThreadId
  | codec thread .. => some thread
  | takeLastError thread _ => some thread
  | release _ => none

/-- What a call answers: its status, if its function has one, and the slots of its out
parameters. -/
structure RawAnswer where
  status : Option Status
  memory : OutMemory
deriving DecidableEq, Repr

/-- The native side and what it has handed out. -/
structure RawSide where
  side : EngineSide
  /-- The buffers that have not been given back. -/
  held : List Buffer

/-- The bytes that an encoding call makes with a compressor. -/
def EngineSide.encodingWith (compress : List UInt8 → List UInt8) (tag text : Option CText) :
    Except EngineError (List UInt8) := do
  let tag ← requiredText "type tag" tag
  let text ← requiredText "text" text
  Frame.encodeWith compress tag text

/-- What a request comes to. -/
def CodecRequest.result (compress : List UInt8 → List UInt8) :
    CodecRequest → Except EngineError (List UInt8)
  | encode tag text => EngineSide.encodingWith compress tag text
  | decode tag bytes length => EngineSide.decoding tag bytes length

/-- The buffer in the slots of a call. -/
def OutSlots.buffer? : OutSlots → Option Buffer
  | written buffer => some buffer
  | null _ => none

namespace RawSide

def initial : RawSide := ⟨.initial, []⟩

/-- The end of a call: the slots are written, and what they lead to is held. -/
def answered (status : Option Status) (out : OutMemory) (slots : Option OutSlots)
    (side : EngineSide) (s : RawSide) : RawAnswer × RawSide :=
  (⟨status, out.after slots⟩, ⟨side, (slots.bind OutSlots.buffer?).toList ++ s.held⟩)

def step (compress : List UInt8 → List UInt8) (call : RawCall) (s : RawSide) :
    Option (RawAnswer × RawSide) :=
  match call with
  | .codec thread request out =>
    let ((status, slots), side) := s.side.guarded thread out.parameters (request.result compress)
    some (s.answered (some status) out slots side)
  | .takeLastError thread out =>
    let (slots, side) := s.side.takeLastError thread out.parameters
    some (s.answered none out slots side)
  | .release slots =>
    match slots.buffer? with
    | none => some (⟨none, none, none⟩, { s with side := s.side.releaseSlots slots })
    | some buffer =>
      if buffer ∈ s.held then
        some (⟨none, none, none⟩, ⟨s.side.releaseSlots slots, s.held.erase buffer⟩)
      else none

/-- Calls in order, and what they answer; none if one of them may not be made. -/
def run (compress : List UInt8 → List UInt8) :
    List RawCall → RawSide → Option (List RawAnswer × RawSide)
  | [], s => some ([], s)
  | call :: calls, s =>
    match s.step compress call with
    | none => none
    | some (answer, s) =>
      match run compress calls s with
      | none => none
      | some (answers, s) => some (answer :: answers, s)

end RawSide

end EngineBridge
