import EngineBridge.Domain.Type
/-!
# Schedules

A schedule has an identifier, a list of signatories, and optional members that are not
written when absent; `null` reads as absent.
-/

namespace EngineBridge

-- Powers are core's, also where Mathlib has brought its own.
attribute [local instance (20000)] instPowNat

structure ScheduleInfo where
  scheduleId : String
  memo : Option String
  expirationTime : Option Nat
  adminKey : Option String
  signatories : List String
  executed : Option Bool
deriving DecidableEq, Repr

namespace ScheduleInfo

/-- The expiration time is an unsigned 64-bit word. -/
def InRange (info : ScheduleInfo) : Prop :=
  ∀ time ∈ info.expirationTime, time < 2 ^ (64 : Nat)

/-- The member of an optional value, if it is there. -/
def optionalMember {α : Type} (name : String) (toJson : α → Json) (value : Option α) :
    List (String × Json) :=
  (value.map fun value => (name, toJson value)).toList

def members (info : ScheduleInfo) : List (String × Json) :=
  [("scheduleId", .string info.scheduleId)]
    ++ optionalMember "memo" .string info.memo
    ++ optionalMember "expirationTime" .ofNat info.expirationTime
    ++ optionalMember "adminKey" .string info.adminKey
    ++ [("signatories", .array (info.signatories.map .string))]
    ++ optionalMember "executed" .bool info.executed

/-- A schedule of which some members have been read; an outer `none` is a member that was
not there. -/
structure Draft where
  scheduleId : Option String
  memo : Option (Option String)
  expirationTime : Option (Option Nat)
  adminKey : Option (Option String)
  signatories : Option (List String)
  executed : Option (Option Bool)

def Draft.finish (draft : Draft) : Option ScheduleInfo := do
  return ⟨← draft.scheduleId, draft.memo.join, draft.expirationTime.join, draft.adminKey.join,
    draft.signatories.getD [], draft.executed.join⟩

def field {α : Type} (name : String) (isRequired : Bool)
    (readMember : Json.Bytes → Except Json.Stop (α × Json.Bytes)) (put : α → Draft → Draft)
    (get : Draft → Option α) : Json.Field Draft where
  name := name
  read input := do
    let (value, rest) ← readMember input
    return (put value, rest)
  isGiven draft := (get draft).isSome
  isRequired := isRequired

/-- The record that a schedule is read from. -/
def recordType : Json.RecordType Draft ScheduleInfo where
  name := "ScheduleInfo"
  fields :=
    [field "scheduleId" true Json.readTextValue
        (fun value draft => { draft with scheduleId := some value }) (·.scheduleId),
      field "memo" false (Json.readOptional Json.readTextValue)
        (fun value draft => { draft with memo := some value }) (·.memo),
      field "expirationTime" false (Json.readOptional (Json.readWordValue "u64"))
        (fun value draft => { draft with expirationTime := some value }) (·.expirationTime),
      field "adminKey" false (Json.readOptional Json.readTextValue)
        (fun value draft => { draft with adminKey := some value }) (·.adminKey),
      field "signatories" false Json.readTextsValue
        (fun value draft => { draft with signatories := some value }) (·.signatories),
      field "executed" false (Json.readOptional Json.readBoolValue)
        (fun value draft => { draft with executed := some value }) (·.executed)]
  start := ⟨none, none, none, none, none, none⟩
  finish := Draft.finish
  isClosed := false

def domainType : DomainType ScheduleInfo :=
  ⟨"ScheduleInfo", "ScheduleInfo", fun info => .ok (Json.object info.members).text,
    recordType.readText⟩

end ScheduleInfo

end EngineBridge
