import EngineBridge.Engine.Dispatch
import EngineBridge.Frame
import EngineBridge.Native.Library
/-!
# The native side of an engine: the `conduit_` functions and `Stats`

What the functions of an engine library do to the process: counters, the last error of each
thread, and the buffers that are out.  A failing call records its error on the calling
thread, replacing an older one; taking it empties the place.
-/

namespace EngineBridge

/-- `Stats`: how often things happened since the process began. -/
structure Counters where
  allocated : Nat
  released : Nat
  callbacks : Nat
  recorded : Nat
  taken : Nat
deriving DecidableEq, Repr

namespace Counters

def zero : Counters := ⟨0, 0, 0, 0, 0⟩

/-- `Stats::since`. -/
def since (now earlier : Counters) : Counters :=
  ⟨now.allocated - earlier.allocated, now.released - earlier.released,
    now.callbacks - earlier.callbacks, now.recorded - earlier.recorded,
    now.taken - earlier.taken⟩

def toList (c : Counters) : List Nat :=
  [c.allocated, c.released, c.callbacks, c.recorded, c.taken]

end Counters

/-- The state of the native side. -/
structure EngineSide where
  counters : Counters
  /-- The record of the last error of each thread. -/
  lastError : ThreadId → Option String
  /-- The buffers that are out, by address. -/
  live : List Nat
  /-- The address of the next buffer. -/
  nextAddress : Nat

/-- The out parameters of a call: whether each of the two slots is a null pointer. -/
structure OutParameters where
  pointerIsNull : Bool
  lengthIsNull : Bool
deriving DecidableEq, Repr

namespace OutParameters

def both : OutParameters := ⟨false, false⟩

def isIncomplete (out : OutParameters) : Bool := out.pointerIsNull || out.lengthIsNull

end OutParameters

namespace EngineSide

/-- Nothing has happened and every thread's error is empty. -/
def initial : EngineSide := ⟨.zero, fun _ => none, [], 1⟩

/-- `set_last_error`: keeps an error as the thread's last. -/
def record (thread : ThreadId) (error : EngineError) (s : EngineSide) : EngineSide :=
  { s with
    counters := { s.counters with recorded := s.counters.recorded + 1 }
    lastError := fun t => if t = thread then some error.record.text else s.lastError t }

/-- `take_last_error`: moves the thread's last error out. -/
def take (thread : ThreadId) (s : EngineSide) : Option String × EngineSide :=
  match s.lastError thread with
  | none => (none, s)
  | some text =>
    (some text,
      { s with
        counters := { s.counters with taken := s.counters.taken + 1 }
        lastError := fun t => if t = thread then none else s.lastError t })

/-- `write_buffer`: hands bytes out. -/
def allocate (bytes : List UInt8) (s : EngineSide) : Buffer × EngineSide :=
  (⟨s.nextAddress, bytes⟩,
    { s with
      counters := { s.counters with allocated := s.counters.allocated + 1 }
      live := s.nextAddress :: s.live
      nextAddress := s.nextAddress + 1 })

def release (buffer : Buffer) (s : EngineSide) : EngineSide :=
  { s with
    counters := { s.counters with released := s.counters.released + 1 }
    live := s.live.erase buffer.address }

/-- `conduit_release_buffer`: takes back what a pointer and a length denote; a null pointer denotes
nothing. -/
def releaseSlots (out : OutSlots) (s : EngineSide) : EngineSide :=
  match out with
  | .written buffer => s.release buffer
  | .null _ => s

/-- `read_text`: a text argument, which may be null. -/
def textArgument (what : String) (argument : Option CText) :
    Except EngineError (Option String) :=
  match argument with
  | none => .ok none
  | some text =>
    match text.decode with
    | .ok text => .ok (some text)
    | .error fault => .error (.invalidArgument (what ++ " is not UTF-8: " ++ fault.message))

/-- `required_text`: a text argument that must not be null. -/
def requiredText (what : String) (argument : Option CText) : Except EngineError String :=
  match textArgument what argument with
  | .ok (some text) => .ok text
  | .ok none => .error (.invalidArgument ("null " ++ what))
  | .error error => .error error

/-- A byte argument: a pointer that may be null, and a length. -/
def byteArgument (bytes : Option (List UInt8)) (length : Nat) :
    Except EngineError (List UInt8) :=
  match bytes with
  | some bytes => .ok bytes
  | none => if length = 0 then .ok [] else .error (.invalidArgument "null bytes")

/-- What `conduit_encode` guards: the bytes that an encoding call makes. -/
def encoding (tag text : Option CText) : Except EngineError (List UInt8) := do
  let tag ← requiredText "type tag" tag
  let text ← requiredText "text" text
  Frame.encode tag text

/-- What `conduit_decode` guards: the bytes that a decoding call makes. -/
def decoding (tag : Option CText) (bytes : Option (List UInt8)) (length : Nat) :
    Except EngineError (List UInt8) := do
  let tag ← requiredText "type tag" tag
  let bytes ← byteArgument bytes length
  return Utf8.encode (← Frame.decode tag bytes)

/-- Ends a call that makes bytes: hands them out, or records the error and leaves the slots
empty. -/
def deliver (thread : ThreadId) (result : Except EngineError (List UInt8)) (s : EngineSide) :
    (Status × OutSlots) × EngineSide :=
  match result with
  | .ok bytes =>
    let (buffer, s) := s.allocate bytes
    ((.ok, .written buffer), s)
  | .error error => ((error.status, .untouched), s.record thread error)

/-- The error of a call without proper out parameters. -/
def nullOutParameter : EngineError := .invalidArgument "null out parameter"

/-- `guarded`: runs a call that makes bytes; without proper out parameters nothing is written. -/
def guarded (thread : ThreadId) (out : OutParameters)
    (result : Except EngineError (List UInt8)) (s : EngineSide) :
    (Status × Option OutSlots) × EngineSide :=
  if out.isIncomplete then
    ((nullOutParameter.status, none), s.record thread nullOutParameter)
  else
    let ((status, slots), s) := s.deliver thread result
    ((status, some slots), s)

/-- `conduit_take_last_error`; without proper out parameters it does nothing. -/
def takeLastError (thread : ThreadId) (out : OutParameters) (s : EngineSide) :
    Option OutSlots × EngineSide :=
  if out.isIncomplete then (none, s)
  else
    match s.take thread with
    | (none, s) => (some .untouched, s)
    | (some text, s) =>
      let (buffer, s) := s.allocate (Utf8.encode text)
      (some (.written buffer), s)

/-- The error of a configuration that is refused. -/
def configError (error : Json.ReadError) : EngineError :=
  .invalidArgument ("engine config: " ++ error.message)

/-- The engine of a configuration text, if it starts. -/
def engineOf (text : String) : Except EngineError Engine := do
  let config ← (EngineConfig.readText text).mapError configError
  (Engine.builtIn.configure config).start.mapError .startFailed

/-- The engine that an argument asks for. -/
def engineArgument (config : Option CText) : Except EngineError Engine := do
  engineOf ((← textArgument "config" config).getD EngineConfig.emptyText)

/-- `conduit_engine_new`: makes an engine, or records why there is none. -/
def newEngine (thread : ThreadId) (config : Option CText) (s : EngineSide) :
    Option Engine × EngineSide :=
  match engineArgument config with
  | .ok engine => (some engine, s)
  | .error error => (none, s.record thread error)

/-- The engine and the request text that a request call puts to work, or why it is rejected
at once. -/
def submission (engine : Option Engine) (request : Option CText) :
    Except EngineError (Engine × String) :=
  match engine with
  | none => .error (.invalidArgument "null engine")
  | some engine =>
    match textArgument "request" request with
    | .error error => .error error
    | .ok none => .error (.invalidArgument "null request")
    | .ok (some text) => .ok (engine, text)

/-- The response of a result: a text must be a C text. -/
def responseOf (result : Except EngineError String) : Except EngineError CText :=
  match result with
  | .error error => .error error
  | .ok text =>
    match CText.ofBytes (Utf8.encode text) with
    | .ok text => .ok text
    | .error _ => .error (.failed "InvalidResponse" "response contains a nul byte" none none)

/-- `CallContext::complete`: counts the callback, records an error, and answers what the callback is
told. -/
def complete (thread : ThreadId) (context : Token) (result : Except EngineError String)
    (s : EngineSide) : Callback × EngineSide :=
  let s := { s with counters := { s.counters with callbacks := s.counters.callbacks + 1 } }
  match responseOf result with
  | .ok response => (⟨thread, context, .ok, some response⟩, s)
  | .error error => (⟨thread, context, error.status, none⟩, s.record thread error)

/-- `conduit_execute` from the call to its callback, when a worker thread is ready: rejected
requests are completed on the caller's thread, others on the worker. -/
def execute (caller worker : ThreadId) (engine : Option Engine) (request : Option CText)
    (context : Token) (s : EngineSide) : Callback × EngineSide :=
  match submission engine request with
  | .error error => s.complete caller context (.error error)
  | .ok (engine, text) => s.complete worker context (engine.dispatch text)

end EngineSide

end EngineBridge
