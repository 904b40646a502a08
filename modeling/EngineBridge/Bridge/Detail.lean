import EngineBridge.EngineError
import EngineBridge.Json.Reader
import EngineBridge.Text.Basic
/-!
# Error details: `ErrorDetail`

A failing native call leaves a detail behind: a JSON object with a `kind`, and perhaps a
`message`, a `status`, a `transactionId` and further members, which are kept.  A text that
is no such object becomes, whole, the message of a detail of kind `Unknown`.
-/

namespace EngineBridge

/-- What is known about a failure of a native call. -/
structure ErrorDetail where
  kind : String
  message : String
  status : Option String
  transactionId : Option String
  extra : NameMap Json

namespace ErrorDetail

def unknownKind : String := "Unknown"

/-- A detail with a kind and a message alone. -/
def plain (kind message : String) : ErrorDetail := ⟨kind, message, none, none, []⟩

/-- `ErrorDetail::missing`: the detail of a failing status that came with nothing to read. -/
def missing (code : Status) : ErrorDetail :=
  plain unknownKind
    ("native call failed with status " ++ toString code ++ " and no error detail")

/-- The names with a meaning of their own. -/
def ownNames : List String := ["kind", "message", "status", "transactionId"]

/-- The value of the only member of a name; `none` when there are several, `some none` when
there is none. -/
def only? (name : String) (members : List (String × Json)) : Option (Option Json) :=
  match members.filter fun member => member.1 = name with
  | [] => some none
  | [member] => some (some member.2)
  | _ => none

/-- A member that must be a string if it is there. -/
def text? (name : String) (members : List (String × Json)) : Option (Option String) :=
  match only? name members with
  | some none => some none
  | some (some (.string value)) => some (some value)
  | _ => none

/-- A member that may also be null. -/
def nullableText? (name : String) (members : List (String × Json)) : Option (Option String) :=
  match only? name members with
  | some none => some none
  | some (some .null) => some none
  | some (some (.string value)) => some (some value)
  | _ => none

/-- The detail that members of an object describe. -/
def ofMembers? (members : List (String × Json)) : Option ErrorDetail := do
  let kind ← (← text? "kind" members)
  let message ← text? "message" members
  let status ← nullableText? "status" members
  let transactionId ← nullableText? "transactionId" members
  return ⟨kind, message.getD "", status, transactionId,
    NameMap.ofList (members.filter fun member => member.1 ∉ ownNames)⟩

/-- The detail that a text describes, if it is a record. -/
def ofText? (text : String) : Option ErrorDetail :=
  match Json.readMembersText text with
  | .ok members => ofMembers? members
  | .error _ => none

/-- `ErrorDetail::parse`: the detail that a text stands for, its record or else the text as a
message. -/
def parse (text : String) : ErrorDetail :=
  (ofText? text).getD (plain unknownKind (Text.trim text))

/-- The detail's own part, in the form in which an engine records it. -/
def record (detail : ErrorDetail) : ErrorRecord :=
  ⟨detail.kind, detail.message, detail.status, detail.transactionId⟩

/-- The detail as JSON text: its own members, then the further ones. -/
def json (detail : ErrorDetail) : String :=
  (Json.object (detail.record.members ++ detail.extra)).text

def display (detail : ErrorDetail) : String :=
  detail.kind
    ++ (match detail.status with
        | some status => " [" ++ status ++ "]"
        | none => "")
    ++ (if detail.message = "" then "" else ": " ++ detail.message)

/-- The status of the failure: its own, or else its kind. -/
def statusOrKind (detail : ErrorDetail) : String := detail.status.getD detail.kind

end ErrorDetail

end EngineBridge
