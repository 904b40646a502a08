import EngineBridge.Binary64.Shortest
/-!
# TOML values

A document is a table; tables keep their entries in the order of the document.  Of a date or
a time only its text is kept, since no setting is one.
-/

namespace EngineBridge

-- Powers are core's, also where Mathlib has brought its own.
attribute [local instance (20000)] instPowNat

inductive TomlFloat where
  | finite (value : Binary64)
  | infinite (negative : Bool)
  | notANumber
deriving DecidableEq, Repr

/-- How a floating-point number is shown: without an exponent. -/
def TomlFloat.text : TomlFloat → String
  | finite value => value.positional
  | infinite negative => if negative then "-inf" else "inf"
  | notANumber => "NaN"

/-- A TOML value. -/
inductive Toml where
  | text (value : String)
  | integer (value : Int)
  | float (value : TomlFloat)
  | bool (value : Bool)
  | moment (text : String)
  | array (elements : List Toml)
  | table (entries : List (String × Toml))

instance : Inhabited Toml := ⟨.table []⟩

namespace Toml

/-- The integers of a document: those of a signed 64-bit word. -/
def InRange (value : Int) : Prop := -(2 ^ (63 : Nat)) ≤ value ∧ value < 2 ^ (63 : Nat)

instance (value : Int) : Decidable (InRange value) :=
  inferInstanceAs (Decidable (_ ∧ _))

end Toml

end EngineBridge
