import EngineBridge.Domain.Type
import EngineBridge.Native.Library
/-!
# Encoding and decoding typed values: `DomainObject`

A typed value goes to the engine as canonical text under the tag of its type and comes back
the same way.  `encode` is for values that always have an encoding: there a failure is a
fault.  One bridge of the process may be installed for `toBytes` and `fromBytes`.
-/

namespace EngineBridge.NativeLibrary

variable {σ α : Type}

/-- `Bridge::try_encode`: the caller owns the buffer. -/
def tryEncode (library : NativeLibrary σ) (thread : ThreadId) (type : DomainType α) (value : α)
    (s : σ) : Except Failure Buffer × σ :=
  match type.write value with
  | .error reason => (.error (.error (.serialize type.name reason)), s)
  | .ok text => library.encodeRaw thread type.tag text s

/-- `Bridge::encode`, for a value that must have an encoding. -/
def encodeValue (library : NativeLibrary σ) (thread : ThreadId) (type : DomainType α)
    (value : α) (s : σ) : Except Violation Buffer × σ :=
  match library.tryEncode thread type value s with
  | (.ok buffer, s) => (.ok buffer, s)
  | (.error (.error error), s) => (.error (.encodeFailed type.tag error.message), s)
  | (.error (.fault violation), s) => (.error violation, s)

/-- `Bridge::decode`. -/
def decodeValue (library : NativeLibrary σ) (thread : ThreadId) (type : DomainType α)
    (bytes : List UInt8) (s : σ) : Except Failure α × σ :=
  match library.decodeRaw thread type.tag bytes s with
  | (.error failure, s) => (.error failure, s)
  | (.ok text, s) =>
    (match type.read text with
      | .ok value => .ok value
      | .error error => .error (.error (.deserialize type.name error.message)), s)

/-- `DomainObject::to_bytes`: the bytes of a value by the installed library, if there is one. -/
def toBytes (installed : Option (NativeLibrary σ)) (thread : ThreadId) (type : DomainType α)
    (value : α) (s : σ) : Except Violation (List UInt8) × σ :=
  match installed with
  | none => (.error (.noBridgeInstalled "to_bytes"), s)
  | some library =>
    match library.encodeValue thread type value s with
    | (.ok buffer, s) => (.ok buffer.bytes, library.release buffer s)
    | (.error violation, s) => (.error violation, s)

/-- `DomainObject::from_bytes`: the value in some bytes by the installed library, if there is one.
-/
def fromBytes (installed : Option (NativeLibrary σ)) (thread : ThreadId) (type : DomainType α)
    (bytes : List UInt8) (s : σ) : Except Failure α × σ :=
  match installed with
  | none => (.error (.error .notInstalled), s)
  | some library => library.decodeValue thread type bytes s

end EngineBridge.NativeLibrary
