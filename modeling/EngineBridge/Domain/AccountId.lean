import EngineBridge.Domain.Type
/-!
# Account identifiers

Three unsigned words, all required.
-/

namespace EngineBridge

-- Powers are core's, also where Mathlib has brought its own.
attribute [local instance (20000)] instPowNat

structure AccountId where
  shard : Nat
  realm : Nat
  num : Nat
deriving DecidableEq, Repr

namespace AccountId

/-- Each part is an unsigned 64-bit word. -/
def InRange (id : AccountId) : Prop :=
  id.shard < 2 ^ (64 : Nat) ∧ id.realm < 2 ^ (64 : Nat) ∧ id.num < 2 ^ (64 : Nat)

def members (id : AccountId) : List (String × Json) :=
  [("shard", .ofNat id.shard), ("realm", .ofNat id.realm), ("num", .ofNat id.num)]

/-- An identifier of which some parts have been read. -/
structure Draft where
  shard : Option Nat
  realm : Option Nat
  num : Option Nat

def Draft.finish (draft : Draft) : Option AccountId := do
  return ⟨← draft.shard, ← draft.realm, ← draft.num⟩

def wordField (name : String) (put : Nat → Draft → Draft) (get : Draft → Option Nat) :
    Json.Field Draft where
  name := name
  read input := do
    let (value, rest) ← Json.readWordValue "u64" input
    return (put value, rest)
  isGiven draft := (get draft).isSome
  isRequired := true

/-- The record that an identifier is read from. -/
def recordType : Json.RecordType Draft AccountId where
  name := "AccountId"
  fields :=
    [wordField "shard" (fun value draft => { draft with shard := some value }) (·.shard),
      wordField "realm" (fun value draft => { draft with realm := some value }) (·.realm),
      wordField "num" (fun value draft => { draft with num := some value }) (·.num)]
  start := ⟨none, none, none⟩
  finish := Draft.finish
  isClosed := false

def domainType : DomainType AccountId :=
  ⟨"AccountId", "AccountId", fun id => .ok (Json.object id.members).text, recordType.readText⟩

end AccountId

end EngineBridge
