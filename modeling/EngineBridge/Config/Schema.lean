import EngineBridge.Config.Settings
import EngineBridge.Text.Basic
import EngineBridge.Toml.Basic
/-!
# Settings in a document: how `ConduitConfig` is read

How settings are read from a TOML value.  A section is a table of known names, or an array
that gives its settings by position.  Entries are looked at in the order of the document, and
the first that does not fit is reported.
-/

namespace EngineBridge

inductive Misfit where
  | wrongType (found expected : String)
  | wrongInteger (value : Int) (expected : String)
  | unknownField (name : String) (known : List String)
  | tooShort (length : Nat) (expected : String)
deriving DecidableEq, Repr

def Misfit.message : Misfit → String
  | wrongType found expected => "invalid type: " ++ found ++ ", expected " ++ expected
  | wrongInteger value expected =>
    "invalid value: integer " ++ Text.ticked (toString value) ++ ", expected " ++ expected
  | unknownField name known => Text.unknownField name known
  | tooShort length expected =>
    "invalid length " ++ toString length ++ ", expected " ++ expected

def Toml.kindText : Toml → String
  | .text value => "string " ++ Text.quoted value
  | .integer value => "integer " ++ Text.ticked (toString value)
  | .float value => "floating point " ++ Text.ticked value.text
  | .bool value => "boolean " ++ Text.ticked (toString value)
  | .array _ => "sequence"
  | .moment _ | .table _ => "map"

namespace Schema

def text (expected : String) : Toml → Except Misfit String
  | .text value => .ok value
  | other => .error (.wrongType other.kindText expected)

def unsigned (type : String) : Toml → Except Misfit Nat
  | .integer value =>
    if 0 ≤ value then .ok value.toNat else .error (.wrongInteger value type)
  | other => .error (.wrongType other.kindText type)

def texts (expected : String) : Toml → Except Misfit (List String)
  | .array elements => elements.mapM (text expected)
  | other => .error (.wrongType other.kindText "a sequence")

structure Field (α : Type) where
  name : String
  /-- Puts a value into the section. -/
  put : Toml → α → Except Misfit α
  /-- Whether an array that gives the section by position may end before it. -/
  hasDefault : Bool

/-- A section: its name in messages, its settings, and how it is when nothing is set. -/
structure Section (α : Type) where
  name : String
  fields : List (Field α)
  start : α

namespace Section

variable {α : Type}

def names (s : Section α) : List String := s.fields.map (·.name)

/-- Puts an entry into a section. -/
def putNamed (s : Section α) (value : α) (entry : String × Toml) : Except Misfit α :=
  match s.fields.find? fun field => field.name = entry.1 with
  | some field => field.put entry.2 value
  | none => .error (.unknownField entry.1 s.names)

/-- Puts elements into the settings of the same positions, the first of them at `place`. -/
def putInOrder (s : Section α) :
    (place : Nat) → List (Field α) → List Toml → α → Except Misfit α
  | _, [], _, value => .ok value
  | place, field :: fields, [], value =>
    if field.hasDefault then s.putInOrder (place + 1) fields [] value
    else .error (.tooShort place (Text.recordOfLength s.name s.fields.length))
  | place, field :: fields, element :: elements, value => do
    s.putInOrder (place + 1) fields elements (← field.put element value)

/-- The one name inside a date or a time when it is looked into as if it were a table. -/
def momentName : String := "$__toml_private_datetime"

/-- Reads a section from a value. -/
def read (s : Section α) : Toml → Except Misfit α
  | .table entries => entries.foldlM s.putNamed s.start
  | .array elements => s.putInOrder 0 s.fields elements s.start
  | .moment _ => .error (.unknownField momentName s.names)
  | other => .error (.wrongType other.kindText ("struct " ++ s.name))

end Section

def library : Section LibrarySettings where
  name := "LibrarySection"
  fields :=
    [{ name := "path"
       put := fun value s => do return { s with path := some (← text "path string" value) }
       hasDefault := false },
      { name := "name"
        put := fun value s => do return { s with name := some (← text "a string" value) }
        hasDefault := false },
      { name := "search_paths"
        put := fun value s => do return { s with searchPaths := ← texts "path string" value }
        hasDefault := true }]
  start := .empty

def single {α β : Type} (name field : String) (take : Toml → Except Misfit β)
    (make : Option β → α) : Section α where
  name := name
  fields :=
    [{ name := field
       put := fun value _ => do return make (some (← take value))
       hasDefault := false }]
  start := make none

def bridge : Section BridgeSettings :=
  single "BridgeSection" "execute_timeout_ms" (unsigned "u64") BridgeSettings.mk

def engine : Section EngineSettings :=
  single "EngineSection" "worker_threads" (unsigned "usize") EngineSettings.mk

def log : Section LogSettings :=
  single "LogSection" "filter" (text "a string") LogSettings.mk

def settings : Section Settings where
  name := "ConduitConfig"
  fields :=
    [{ name := "library"
       put := fun value s => do return { s with library := some (← library.read value) }
       hasDefault := false },
      { name := "bridge"
        put := fun value s => do return { s with bridge := some (← bridge.read value) }
        hasDefault := false },
      { name := "engine"
        put := fun value s => do return { s with engine := some (← engine.read value) }
        hasDefault := false },
      { name := "log"
        put := fun value s => do return { s with log := some (← log.read value) }
        hasDefault := false }]
  start := .empty

end Schema

end EngineBridge
