import EngineBridge.Config.Environment
/-!
# The commands and their options: `Cli` and `Commands`

What the command line consists of, as data: `Arguments` reads a command line by it, `Help`
and `Completion` describe it.
-/

namespace EngineBridge.Command

def programName : String := "conduit"

def programVersion : String := "0.1.0"

inductive Shell where
  | bash
  | elvish
  | fish
  | powershell
  | zsh
deriving DecidableEq, Repr

namespace Shell

def all : List Shell := [bash, elvish, fish, powershell, zsh]

def name : Shell → String
  | bash => "bash"
  | elvish => "elvish"
  | fish => "fish"
  | powershell => "powershell"
  | zsh => "zsh"

def ofName? (name : String) : Option Shell := all.find? fun shell => shell.name = name

end Shell

inductive ValueKind where
  | text
  /-- A path, which must not be empty. -/
  | path
  | milliseconds
  | shell
deriving DecidableEq, Repr

/-- Whether a text is such a value. -/
def ValueKind.accepts (kind : ValueKind) (text : String) : Bool :=
  match kind with
  | .text => true
  | .path => text ≠ ""
  | .milliseconds => (Text.readWord text).isOk
  | .shell => (Shell.ofName? text).isSome

structure OptionValue where
  kind : ValueKind
  /-- How it is called in descriptions. -/
  name : String
  /-- The variable that gives it when no option does. -/
  variableName : Option String
deriving DecidableEq, Repr

/-- An option; one without a value is a flag. -/
structure OptionSpec where
  long : String
  short : Option Char
  value : Option OptionValue
  help : String
deriving DecidableEq, Repr

/-- An argument that stands by its position. -/
structure ArgumentSpec where
  name : String
  kind : ValueKind
  help : String
deriving DecidableEq, Repr

inductive Name where
  | exec
  | encode
  | decode
  | info
  | completions
deriving DecidableEq, Repr

namespace Name

def all : List Name := [exec, encode, decode, info, completions]

def word : Name → String
  | exec => "exec"
  | encode => "encode"
  | decode => "decode"
  | info => "info"
  | completions => "completions"

def aliases : Name → List String
  | exec => ["x"]
  | _ => []

def ofWord? (word : String) : Option Name :=
  all.find? fun name => name.word = word || name.aliases.contains word

end Name

def helpWord : String := "help"

def configVariable : String := "CONDUIT_CONFIG"

def logOption : OptionSpec :=
  ⟨"log", none, some ⟨.text, "LOG", some Environment.logVariable⟩,
    "Log filter directive (written to stderr)"⟩

def configOption : OptionSpec :=
  ⟨"config", none, some ⟨.path, "CONFIG", some configVariable⟩,
    "Config file to use instead of searching for conduit.toml"⟩

def globalOptions : List OptionSpec := [logOption, configOption]

def libraryOption : OptionSpec :=
  ⟨"library", some 'l', some ⟨.path, "LIBRARY", none⟩,
    "Engine library path or name (overrides configuration)"⟩

def builtinFlag : OptionSpec :=
  ⟨"builtin", none, none, "Use the in-process reference engine"⟩

def timeoutOption : OptionSpec :=
  ⟨"timeout-ms", none, some ⟨.milliseconds, "TIMEOUT_MS", none⟩,
    "Give up after this many milliseconds"⟩

def compactWord : String := "compact"

def compactFlag (what : String) : OptionSpec :=
  ⟨compactWord, none, none, "Print the " ++ what ++ " on one line"⟩

def typeOption : OptionSpec :=
  ⟨"type", some 't', some ⟨.text, "TYPE_TAG", none⟩, "Type tag of the domain object"⟩

def outputOption : OptionSpec :=
  ⟨"output", some 'o', some ⟨.path, "OUTPUT", none⟩, "Write bytes here instead of stdout"⟩

namespace Name

def options : Name → List OptionSpec
  | exec => [libraryOption, builtinFlag, timeoutOption, compactFlag "response"]
  | encode => [typeOption, outputOption, libraryOption, builtinFlag]
  | decode => [typeOption, compactFlag "object", libraryOption, builtinFlag]
  | info => []
  | completions => []

/-- The arguments of a command, all of them required. -/
def arguments : Name → List ArgumentSpec
  | exec => [⟨"REQUEST", .text, "Request JSON, a file containing it, or '-' for stdin"⟩]
  | encode => [⟨"INPUT", .text, "JSON input, a file containing it, or '-' for stdin"⟩]
  | decode => [⟨"FILE", .path, "File holding encoded bytes"⟩]
  | info => []
  | completions => [⟨"SHELL", .shell, "Shell to generate completions for"⟩]

/-- The options that a command requires. -/
def required : Name → List OptionSpec
  | encode | decode => [typeOption]
  | _ => []

end Name

end EngineBridge.Command
