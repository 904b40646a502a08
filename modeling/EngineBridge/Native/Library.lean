import EngineBridge.Native.Buffer
/-!
# Native libraries: `NativeApi` and `NativeLibrary`

A native library is its functions, acting on a state `σ` of the native side.  Codec calls
and the last error belong to a thread.  An accepted request is answered later by a callback,
or by callbacks that happen before `execute` returns.

`readDetail` takes the calling thread's last error out of the library, `checkStatus` turns a
status into success or failure, reading the detail only for a failure and then once.

An `EngineHandle` is the engine of a library in use, as its owner keeps it: the address at
which it is to be freed, if it is.
-/

namespace EngineBridge

abbrev ThreadId := Nat

/-- The context of a call, handed back with its answer. -/
abbrev Token := Nat

/-- A completion: on which thread, for which context, with which status and response. -/
structure Callback where
  thread : ThreadId
  context : Token
  status : Status
  response : Option CText
deriving DecidableEq

/-- `NativeApi`: the functions of a native library. -/
structure NativeLibrary (σ : Type) where
  execute : Token → CText → σ → List Callback × σ
  decode : ThreadId → CText → List UInt8 → σ → (Status × OutSlots) × σ
  encode : ThreadId → CText → CText → σ → (Status × OutSlots) × σ
  takeLastError : ThreadId → σ → OutSlots × σ
  release : Buffer → σ → σ

/-- The engine of a library in use. -/
structure EngineHandle where
  /-- Where the engine is; a library without an engine of its own has none. -/
  address : Option Nat
  /-- Whether the library can free an engine. -/
  canFree : Bool
deriving DecidableEq, Repr

namespace EngineHandle

def owned (address : Nat) : EngineHandle := ⟨some address, true⟩

/-- The address that is handed to the library when the engine is no longer needed. -/
def toFree (handle : EngineHandle) : Option Nat :=
  if handle.canFree then handle.address else none

end EngineHandle

/-- What `translate` makes of a failing status and a detail, if one can be read. -/
def failureOf (code : Status) (detail : Option String) : BridgeError :=
  match detail with
  | some text =>
    .nativeStatus code (if Text.isAllBlank text then .missing code else .parse text)
  | none => .nativeStatus code (.missing code)

/-- `translate`: success for status zero, without a look at the detail; else the failure that the
detail describes, which is read once. -/
def checkStatus {σ : Type} (code : Status) (readDetail : σ → Except Violation (Option String) × σ)
    (s : σ) : Except Failure Unit × σ :=
  if code = Status.ok then (.ok (), s)
  else
    match readDetail s with
    | (.ok detail, s) => (.error (.error (failureOf code detail)), s)
    | (.error violation, s) => (.error (.fault violation), s)

namespace NativeLibrary

variable {σ : Type}

def releaseAny (library : NativeLibrary σ) (buffer : Option Buffer) (s : σ) : σ :=
  match buffer with
  | some buffer => library.release buffer s
  | none => s

/-- Moves the thread's last error out of the library, as the buffer that holds it. -/
def takeDetail (library : NativeLibrary σ) (thread : ThreadId) (s : σ) :
    Except Violation (Option Buffer) × σ :=
  let (out, s) := library.takeLastError thread s
  (out.take, s)

/-- `NativeLibrary::take_last_error`: moves the thread's last error out of the library. -/
def readDetail (library : NativeLibrary σ) (thread : ThreadId) (s : σ) :
    Except Violation (Option String) × σ :=
  match library.takeDetail thread s with
  | (.error violation, s) => (.error violation, s)
  | (.ok buffer, s) => (.ok (buffer.map Buffer.lossyText), library.releaseAny buffer s)

/-- The buffer that a codec call answered with a status and its slots. -/
def codecResult (library : NativeLibrary σ) (thread : ThreadId) (operation : String)
    (status : Status) (out : OutSlots) (s : σ) : Except Failure Buffer × σ :=
  match out.take with
  | .error violation => (.error (.fault violation), s)
  | .ok buffer =>
    match checkStatus status (library.readDetail thread) s with
    | (.error failure, s) => (.error failure, library.releaseAny buffer s)
    | (.ok (), s) =>
      match buffer with
      | some buffer => (.ok buffer, s)
      | none => (.error (.fault (.missingResult operation)), s)

/-- `Bridge::encode_raw`: the caller owns the buffer. -/
def encodeRaw (library : NativeLibrary σ) (thread : ThreadId) (tag text : String) (s : σ) :
    Except Failure Buffer × σ :=
  match toCText tag with
  | .error error => (.error (.error error), s)
  | .ok tag =>
    match toCText text with
    | .error error => (.error (.error error), s)
    | .ok text =>
      let ((status, out), s) := library.encode thread tag text s
      library.codecResult thread "encode" status out s

/-- `Bridge::decode_raw`. -/
def decodeRaw (library : NativeLibrary σ) (thread : ThreadId) (tag : String)
    (bytes : List UInt8) (s : σ) : Except Failure String × σ :=
  match toCText tag with
  | .error error => (.error (.error error), s)
  | .ok tag =>
    let ((status, out), s) := library.decode thread tag bytes s
    match library.codecResult thread "decode" status out s with
    | (.error failure, s) => (.error failure, s)
    | (.ok buffer, s) =>
      (buffer.decode.mapError .error, library.release buffer s)

end NativeLibrary

end EngineBridge
