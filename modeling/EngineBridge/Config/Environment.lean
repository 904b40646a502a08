import EngineBridge.Config.Schema
import EngineBridge.Files.Tree
import EngineBridge.Text.Utf8
/-!
# Settings in the environment: `apply_env_overrides`, and `ConfigError`

Four variables set what configuration files can set too.  A variable that is blank or no
text counts as unset.  Together they are a layer of settings like any other.
-/

namespace EngineBridge

/-! ## Errors of configuration -/

inductive DocumentError where
  /-- It is no TOML, from a line on. -/
  | malformed (line : Nat)
  /-- It is TOML, but a value in it does not fit. -/
  | misfit (reason : Misfit)
deriving DecidableEq, Repr

def DocumentError.message : DocumentError → String
  | malformed line => "TOML parse error at line " ++ toString line
  | misfit reason => "TOML parse error at a value\n" ++ reason.message

/-- `ConfigError`: why the configuration cannot be used. -/
inductive ConfigError where
  | notFound (path : String)
  | unreadable (error : FileError)
  | document (file : String) (error : DocumentError)
  | invalidValue (fault : SettingFault)
  | invalidVariable (name : String) (fault : Text.NumberFault)
deriving DecidableEq, Repr

namespace ConfigError

def message : ConfigError → String
  | notFound path => "Configuration file not found: " ++ path
  | unreadable error => "Failed to read configuration file: " ++ error.message
  | document file error => "Invalid TOML syntax in " ++ file ++ ": " ++ error.message
  | invalidValue fault => fault.message
  | invalidVariable name fault =>
    "Invalid value in environment variable " ++ name ++ ": " ++ fault.message

/-- The errors behind this one. -/
def causes : ConfigError → List String
  | unreadable error => [error.message]
  | _ => []

end ConfigError

/-! ## Variables -/

/-- The variables of a process, by name. -/
structure Environment where
  values : List (String × List UInt8)
deriving Repr

namespace Environment

/-- The bytes of a variable. -/
def bytes? (env : Environment) (name : String) : Option (List UInt8) := env.values.lookup name

/-- The text of a variable, if it is one. -/
def text? (env : Environment) (name : String) : Option String :=
  (env.bytes? name).bind fun bytes => (Utf8.decode bytes).toOption

/-- `env_var`: the text of a variable, if it is one and not blank. -/
def setting? (env : Environment) (name : String) : Option String :=
  (env.text? name).filter fun text => !Text.isAllBlank text

def libraryVariable : String := "CONDUIT_LIBRARY"

def timeoutVariable : String := "CONDUIT_TIMEOUT_MS"

def workersVariable : String := "CONDUIT_WORKERS"

def logVariable : String := "CONDUIT_LOG"

def number? (env : Environment) (name : String) : Except ConfigError (Option Nat) :=
  match env.setting? name with
  | none => .ok none
  | some text =>
    match Text.readWord text with
    | .ok n => .ok (some n)
    | .error fault => .error (.invalidVariable name fault)

/-- `apply_env_overrides`: the settings that the variables make. -/
def settings (env : Environment) : Except ConfigError Settings := do
  let timeout ← env.number? timeoutVariable
  let workers ← env.number? workersVariable
  return {
    library := (env.setting? libraryVariable).map fun path => ⟨some path, none, []⟩
    bridge := timeout.map fun n => ⟨some n⟩
    engine := workers.map fun n => ⟨some n⟩
    log := (env.setting? logVariable).map fun filter => ⟨some filter⟩ }

end Environment

end EngineBridge
