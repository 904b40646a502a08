import EngineBridge.Native.Scripted
/-!
# Libraries whose calls are noted

`recorded` is a library together with the list of the calls it gets, each with its arguments.  It
answers as the library does.  What a caller leaves to the library, and what it gives back to it,
can be read off the list.
-/

namespace EngineBridge

/-- A call of one of a library's functions, with what it was given. -/
inductive NativeCall where
  | execute (context : Token) (request : CText)
  | codec (thread : ThreadId) (arguments : CodecArguments)
  | takeLastError (thread : ThreadId)
  | release (buffer : Buffer)
deriving DecidableEq

namespace NativeCall

/-- The buffer that a call gives back. -/
def released? : NativeCall → Option Buffer
  | release buffer => some buffer
  | execute .. | codec .. | takeLastError _ => none

/-- Whether a call is one of those that may follow a codec call of a thread. -/
def Follows (thread : ThreadId) : NativeCall → Prop
  | takeLastError reader => reader = thread
  | release _ => True
  | execute .. | codec .. => False

end NativeCall

namespace NativeLibrary

variable {σ : Type}

/-- The library, with a list of its calls. -/
def recorded (library : NativeLibrary σ) : NativeLibrary (σ × List NativeCall) where
  execute context request s :=
    let (callbacks, state) := library.execute context request s.1
    (callbacks, state, s.2 ++ [.execute context request])
  decode thread tag bytes s :=
    let (answer, state) := library.decode thread tag bytes s.1
    (answer, state, s.2 ++ [.codec thread (.decode tag bytes)])
  encode thread tag text s :=
    let (answer, state) := library.encode thread tag text s.1
    (answer, state, s.2 ++ [.codec thread (.encode tag text)])
  takeLastError thread s :=
    let (out, state) := library.takeLastError thread s.1
    (out, state, s.2 ++ [.takeLastError thread])
  release buffer s := (library.release buffer s.1, s.2 ++ [.release buffer])

/-- What a library leaves behind a codec call: the status, the slots of the result, and the slots
of the detail if that is asked for next. -/
structure Reply where
  status : Status
  out : OutSlots
  detail : OutSlots

/-- What a library answers to a codec call of a thread. -/
def reply (library : NativeLibrary σ) (thread : ThreadId) (arguments : CodecArguments) (s : σ) :
    Reply :=
  let ((status, out), s) :=
    match arguments with
    | .encode tag text => library.encode thread tag text s
    | .decode tag bytes => library.decode thread tag bytes s
  ⟨status, out, (library.takeLastError thread s).1⟩

end NativeLibrary

end EngineBridge
