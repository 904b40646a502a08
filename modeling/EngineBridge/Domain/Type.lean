import EngineBridge.Json.Record
/-!
# Domain types: what a `DomainObject` and a `Request` say of themselves

A domain type names itself to the engine by a tag, is written as canonical text, and is read
back from text.
-/

namespace EngineBridge

/-- `DomainObject`: how values of a type are exchanged with an engine. -/
structure DomainType (α : Type) where
  /-- The name of the type in messages. -/
  name : String
  /-- The name of the type in frames. -/
  tag : String
  /-- The text of a value, or why it has none. -/
  write : α → Except String String
  /-- The value that a text holds. -/
  read : String → Except Json.ReadError α

namespace DomainType

def json (name tag : String) : DomainType Json :=
  ⟨name, tag, fun value => .ok value.text, Json.readText⟩

/-- The type whose one value has no text; it is read from any record. -/
def unwritable (name reason : String) : DomainType Unit :=
  ⟨name, name, fun _ => .error reason,
    Json.RecordType.readText ⟨name, [], (), fun _ => some (), false⟩⟩

end DomainType

/-- A kind of response to a typed request: its name in messages, how it is read from text and
how it is written. -/
structure ResponseType (α : Type) where
  name : String
  read : String → Except Json.ReadError α
  write : α → String

def ResponseType.json : ResponseType Json :=
  ⟨"serde_json::value::Value", Json.readText, Json.text⟩

/-- A response that is a record with one required member. -/
def ResponseType.single {α : Type} (name member : String)
    (readMember : Json.Bytes → Except Json.Stop (α × Json.Bytes)) (toJson : α → Json) :
    ResponseType α :=
  ⟨name,
    Json.RecordType.readText
      { name := name
        fields :=
          [{ name := member
             read := fun input => do
               let (value, rest) ← readMember input
               return (fun _ => some value, rest)
             isGiven := Option.isSome
             isRequired := true }]
        start := none
        finish := id
        isClosed := false },
    fun value => (Json.object [(member, toJson value)]).text⟩

def ResponseType.schedule : ResponseType String :=
  .single "ScheduleInfoResponse" "scheduleId" Json.readTextValue .string

def ResponseType.counter : ResponseType Nat :=
  .single "CounterResponse" "n" (Json.readWordValue "u64") .ofNat

def ResponseType.slept : ResponseType Nat :=
  .single "Slept" "sleptMs" (Json.readWordValue "u64") .ofNat

end EngineBridge
