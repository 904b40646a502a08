import EngineBridge.Json.Text
/-!
# Failures of an engine: `EngineError` and `ErrorRecord`

An engine fails for one of six causes.  Each has a status code other than zero, a message,
and a record: the JSON object in which the failure crosses the boundary (`kind`, then
`message` unless empty, then `status` and `transactionId` where given).
-/

namespace EngineBridge

/-- A status code of a native call. -/
abbrev Status := Int

namespace Status

def ok : Status := 0

/-- An operation reported a failure of its own. -/
def operationFailed : Status := 1

/-- An argument was refused. -/
def invalidArgument : Status := 2

/-- Bytes are no frame of the expected kind. -/
def corruptBytes : Status := 3

/-- No operation has the requested name. -/
def unknownOperation : Status := 4

/-- The engine panicked. -/
def panicked : Status := 5

end Status

/-- `EngineError`: why an engine fails. -/
inductive EngineError where
  /-- An operation failed for a reason of its own. -/
  | failed (kind message : String) (status transactionId : Option String)
  | invalidArgument (text : String)
  | corrupt (text : String)
  | unknownOperation (name : String)
  | panicked (text : String)
  | startFailed (text : String)
deriving DecidableEq, Repr

/-- `ErrorRecord`: a failure as it crosses the boundary. -/
structure ErrorRecord where
  kind : String
  message : String
  status : Option String
  transactionId : Option String
deriving DecidableEq, Repr

namespace EngineError

/-- `EngineError::with_status`: failures of other kinds than an operation's have none. -/
def withStatus (status : String) : EngineError → EngineError
  | failed kind message _ transactionId => failed kind message (some status) transactionId
  | error => error

/-- `EngineError::with_transaction_id`, likewise. -/
def withTransactionId (transactionId : String) : EngineError → EngineError
  | failed kind message status _ => failed kind message status (some transactionId)
  | error => error

def message : EngineError → String
  | failed kind message _ _ => kind ++ ": " ++ message
  | invalidArgument text => "invalid argument: " ++ text
  | corrupt text => "corrupt bytes: " ++ text
  | unknownOperation name => "unknown operation: " ++ name
  | panicked text => "engine panicked: " ++ text
  | startFailed text => "engine runtime failed to start: " ++ text

/-- `EngineError::status`: the code that reports the failure, never zero. -/
def status : EngineError → Status
  | failed .. | startFailed _ => .operationFailed
  | invalidArgument _ => .invalidArgument
  | corrupt _ => .corruptBytes
  | unknownOperation _ => .unknownOperation
  | panicked _ => .panicked

/-- `EngineError::record`. -/
def record : EngineError → ErrorRecord
  | failed kind message status transactionId => ⟨kind, message, status, transactionId⟩
  | invalidArgument text => ⟨"InvalidArgument", text, none, none⟩
  | corrupt text => ⟨"CorruptBytes", text, none, none⟩
  | unknownOperation name => ⟨"UnknownOperation", name, none, none⟩
  | panicked text => ⟨"Panic", text, none, none⟩
  | startFailed text => ⟨"Runtime", text, none, none⟩

end EngineError

namespace ErrorRecord

/-- The members of the record, in the order they are written. -/
def members (record : ErrorRecord) : List (String × Json) :=
  [("kind", .string record.kind)]
    ++ (if record.message = "" then [] else [("message", .string record.message)])
    ++ (record.status.map fun status => ("status", Json.string status)).toList
    ++ (record.transactionId.map fun id => ("transactionId", Json.string id)).toList

/-- `ErrorRecord::to_json`. -/
def text (record : ErrorRecord) : String := (Json.object record.members).text

end ErrorRecord

end EngineBridge
