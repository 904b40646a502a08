import EngineBridge.Binary64.Basic
import EngineBridge.NameMap
/-!
# JSON values

Numbers are integers of 64 bits (signed or unsigned) or finite doubles.  The members of an
object are a `NameMap`: sorted by name, each name once.
-/

namespace EngineBridge

-- Powers are core's, also where Mathlib has brought its own.
attribute [local instance (20000)] instPowNat

/-- A JSON number as it is kept. -/
inductive JsonNumber where
  | integer (value : Int)
  | float (value : Binary64)
deriving DecidableEq, Repr

/-- The integers kept as such: those of a signed or an unsigned 64-bit word. -/
def JsonNumber.InRange (value : Int) : Prop :=
  -(2 ^ (63 : Nat)) ≤ value ∧ value < 2 ^ (64 : Nat)

inductive Json where
  | null
  | bool (value : Bool)
  | number (value : JsonNumber)
  | string (value : String)
  | array (elements : List Json)
  | object (members : List (String × Json))

instance : Inhabited Json := ⟨.null⟩

namespace Json

def member? (value : Json) (name : String) : Option Json :=
  match value with
  | .object members => NameMap.find? members name
  | _ => none

def asNat? : Json → Option Nat
  | .number (.integer value) => if 0 ≤ value then some value.toNat else none
  | _ => none

def asString? : Json → Option String
  | .string value => some value
  | _ => none

def ofNat (n : Nat) : Json := .number (.integer n)

end Json

end EngineBridge
