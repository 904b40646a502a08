import EngineBridge.Bridge.Detail
/-!
# Errors of the bridge: `BridgeError`, `LoadError`, `ProtocolViolation`

What callers of the bridge get instead of a result.  A breach of the boundary's own rules is
a `Violation`; it is never handed to a caller as an error but raised as a fault.

A span of time is a number of nanoseconds.  It is shown in the largest of the units `s`, `ms`, `µs`
and `ns` that it reaches, with as many decimal places as it needs.
-/

/-! ## Spans of time -/

namespace EngineBridge

-- Powers are core's, also where Mathlib has brought its own.
attribute [local instance (20000)] instPowNat

structure Duration where
  nanoseconds : Nat
deriving DecidableEq, Repr

namespace Duration

def ofMilliseconds (ms : Nat) : Duration := ⟨ms * 1000000⟩

/-- The span of some seconds and nanoseconds. -/
def ofParts (seconds nanoseconds : Nat) : Duration := ⟨seconds * 1000000000 + nanoseconds⟩

/-- The digits of `part` out of a unit of `10 ^ places`, without zeros at the end. -/
def placesText (part places : Nat) : String :=
  let digits := (toString part).toList
  let padded := List.replicate (places - digits.length) '0' ++ digits
  String.ofList (padded.reverse.dropWhile (· = '0')).reverse

/-- A number of units of `10 ^ places` nanoseconds. -/
def inUnit (nanoseconds places : Nat) (unit : String) : String :=
  let whole := nanoseconds / 10 ^ places
  let part := nanoseconds % 10 ^ places
  toString whole ++ (if part = 0 then "" else "." ++ placesText part places) ++ unit

/-- How a span is shown. -/
def text (span : Duration) : String :=
  let n := span.nanoseconds
  if 10 ^ (9 : Nat) ≤ n then inUnit n 9 "s"
  else if 10 ^ (6 : Nat) ≤ n then inUnit n 6 "ms"
  else if 10 ^ (3 : Nat) ≤ n then inUnit n 3 "µs"
  else inUnit n 0 "ns"

end Duration

/-! ## Errors -/

/-- `LoadError`: why an engine library cannot be used. -/
inductive LoadError where
  | libraryNotFound (name : String)
  | symbolNotFound (library symbol : String)
  | loadFailed (path reason : String)
  | engineInit (library : String)
  | invalidConfig (reason : String)
deriving DecidableEq, Repr

def LoadError.message : LoadError → String
  | libraryNotFound name => "Library not found: " ++ name
  | symbolNotFound library symbol =>
    "Symbol '" ++ symbol ++ "' not found in library '" ++ library ++ "'"
  | loadFailed path reason => "Failed to load library " ++ path ++ ": " ++ reason
  | engineInit library => "Engine in '" ++ library ++ "' failed to initialize"
  | invalidConfig reason => "Invalid engine configuration: " ++ reason

/-- `BridgeError`: what a caller of the bridge may get instead of a result. -/
inductive BridgeError where
  /-- A typed value has no textual form. -/
  | serialize (typeName source : String)
  /-- A text is not of the expected type. -/
  | deserialize (typeName source : String)
  /-- A text cannot be a C string, or bytes are no text. -/
  | invalidText (text : String)
  /-- A native call answered a status other than zero. -/
  | nativeStatus (code : Status) (detail : ErrorDetail)
  /-- The caller's deadline passed first. -/
  | timedOut (limit : Duration)
  | notInstalled
  | load (error : LoadError)

/-- What an error is about. -/
inductive ErrorKind where
  | serialization
  | nativeStatus
  | timeout
  | setup
deriving DecidableEq, Repr

def ErrorKind.name : ErrorKind → String
  | serialization => "Serialization"
  | nativeStatus => "NativeStatus"
  | timeout => "Timeout"
  | setup => "Setup"

namespace BridgeError

/-- `BridgeError::kind`. -/
def kind : BridgeError → ErrorKind
  | serialize .. | deserialize .. | invalidText _ => .serialization
  | nativeStatus .. => .nativeStatus
  | timedOut _ => .timeout
  | notInstalled | load _ => .setup

/-- `BridgeError::detail`, for a failing native call alone. -/
def detail : BridgeError → Option ErrorDetail
  | nativeStatus _ detail => some detail
  | _ => none

/-- `BridgeError::status`: the status in the detail, or its kind. -/
def status (error : BridgeError) : Option String :=
  error.detail.map ErrorDetail.statusOrKind

def message : BridgeError → String
  | serialize typeName source => "failed to serialize " ++ typeName ++ ": " ++ source
  | deserialize typeName source =>
    "failed to deserialize " ++ typeName ++ " from native payload: " ++ source
  | invalidText text => "text cannot cross the native boundary: " ++ text
  | nativeStatus code detail =>
    "native call failed with status " ++ toString code ++ ": " ++ detail.display
  | timedOut limit => "native call did not complete within " ++ limit.text
  | notInstalled => "no bridge installed; call Bridge::install first"
  | load error => error.message

end BridgeError

/-- `ProtocolViolation`: a breach of the rules of the boundary. -/
inductive Violation where
  | doubleResume (token : Nat)
  | unknownToken (token : Nat)
  | completionLost (token : Nat)
  | nullBuffer (length : Nat)
  | missingResult (operation : String)
  | encodeFailed (tag reason : String)
  | noBridgeInstalled (operation : String)
deriving DecidableEq, Repr

namespace Violation

def message : Violation → String
  | doubleResume token => "native engine completed call " ++ toString token ++ " more than once"
  | unknownToken token => "native engine completed unknown call " ++ toString token
  | completionLost token =>
    "pending call " ++ toString token ++ " was retired without a completion"
  | nullBuffer length =>
    "native engine returned a null buffer with length " ++ toString length
  | missingResult operation =>
    "native engine reported success for " ++ operation ++ " without a result"
  | encodeFailed tag reason => "encoding " ++ tag ++ " failed: " ++ reason
  | noBridgeInstalled operation => "no bridge installed for " ++ operation

/-- What `fault` prints. -/
def faultText (violation : Violation) : String :=
  "conduit protocol violation: " ++ violation.message

end Violation

/-- How an operation of the bridge fails: with an error for its caller, or by a fault. -/
inductive Failure where
  | error (error : BridgeError)
  | fault (violation : Violation)

end EngineBridge
