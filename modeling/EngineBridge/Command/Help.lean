import EngineBridge.Command.Options
/-!
# Help texts

What the program and each command do, with their usage and options.  The short form has the
first paragraph of the description alone.
-/

namespace EngineBridge.Command

def programAbout : List String :=
  ["Conduit: drive native engines through the conduit ABI.",
    "Sends requests to an engine library, and encodes or decodes domain objects with the "
      ++ "engine's binary codec.",
    "EXAMPLES:"
      ++ "\n    conduit exec '\x7b\"$type\":\"ping\"\x7d' --builtin      Ping the built-in engine"
      ++ "\n    conduit exec request.json -l ./libengine.so    Execute against a library"
      ++ "\n    conduit encode -t AccountId account.json -o a.bin"
      ++ "\n    conduit decode -t AccountId a.bin              Decode back to JSON"
      ++ "\n    conduit info                                   Show resolved configuration",
    "ENVIRONMENT VARIABLES:"
      ++ "\n    CONDUIT_LIBRARY     Engine library path (overrides conduit.toml)"
      ++ "\n    CONDUIT_TIMEOUT_MS  Execute deadline in milliseconds"
      ++ "\n    CONDUIT_WORKERS     Engine worker threads"
      ++ "\n    CONDUIT_LOG         Log filter, e.g. 'conduit_runtime=debug'"
      ++ "\n    CONDUIT_CONFIG      Config file to use instead of searching for conduit.toml"]

def Name.about : Name → List String
  | exec =>
    ["Execute a request against an engine",
      "The request is a JSON object whose \"$type\" field names the operation. The response is "
        ++ "printed as JSON; failures exit non-zero with the engine's error detail.",
      "EXAMPLES:"
        ++ "\n    conduit exec '\x7b\"$type\":\"ping\"\x7d' --builtin"
        ++ "\n    conduit exec request.json --timeout-ms 2000"
        ++ "\n    cat request.json | conduit exec - --compact"]
  | encode =>
    ["Encode a JSON document into the engine's binary form",
      "EXAMPLES:"
        ++ "\n    conduit encode -t ScheduleInfo info.json -o info.bin"
        ++ "\n    echo '\x7b\"num\":3\x7d' | conduit encode -t AccountId - > account.bin"]
  | decode =>
    ["Decode the engine's binary form back to JSON",
      "EXAMPLES:"
        ++ "\n    conduit decode -t ScheduleInfo info.bin"
        ++ "\n    conduit decode -t AccountId account.bin --compact"]
  | info => ["Show the resolved configuration and engine library"]
  | completions =>
    ["Generate shell completions",
      "EXAMPLES:"
        ++ "\n    conduit completions bash > ~/.bash_completions/conduit.bash"
        ++ "\n    conduit completions zsh > ~/.zfunc/_conduit"]

/-- A paragraph of lines under a heading. -/
def underHeading (heading : String) (lines : List String) : List String :=
  if lines.isEmpty then []
  else [heading ++ ":\n" ++ "\n".intercalate (lines.map fun line => "  " ++ line)]

def valueName (option : OptionSpec) : String :=
  match option.value with
  | none => ""
  | some form => " <" ++ form.name ++ ">"

/-- How an option is called: its letter, if it has one, and its word. -/
def optionForm (option : OptionSpec) : String :=
  (match option.short with
    | some letter => "-" ++ String.singleton letter ++ ", "
    | none => "    ")
    ++ "--" ++ option.long ++ valueName option

/-- The text with blanks up to a width. -/
def padded (width : Nat) (text : String) : String :=
  text ++ String.ofList (List.replicate (width - text.length) ' ')

/-- The width of the names of options and arguments. -/
def nameWidth : Nat := 31

/-- The variable that gives an option's value, and what it holds now. -/
def variableText (env : Environment) (option : OptionSpec) : String :=
  match option.value.bind OptionValue.variableName with
  | none => ""
  | some name =>
    " [env: " ++ name ++ "=" ++ Utf8.decodeLossy ((env.bytes? name).getD []) ++ "]"

def optionLine (env : Environment) (option : OptionSpec) : String :=
  padded nameWidth (optionForm option) ++ option.help ++ variableText env option

def standardOptions : List OptionSpec :=
  [⟨"help", some 'h', none, "Print help"⟩, ⟨"version", some 'V', none, "Print version"⟩]

/-- The line of a command in the list of all. -/
def commandLine (name : Name) : String :=
  padded 13 name.word ++ name.about.headD ""
    ++ if name.aliases.isEmpty then ""
      else " [aliases: " ++ ", ".intercalate name.aliases ++ "]"

/-- The possible values of an argument, if it has only some. -/
def choicesText : ValueKind → String
  | .shell => " [possible values: " ++ ", ".intercalate (Shell.all.map Shell.name) ++ "]"
  | _ => ""

def argumentLine (argument : ArgumentSpec) : String :=
  padded nameWidth ("<" ++ argument.name ++ ">") ++ argument.help ++ choicesText argument.kind

def usageLine (name : Name) : String :=
  "Usage: " ++ programName ++ " " ++ name.word ++ " [OPTIONS]"
    ++ String.join (name.required.map fun option => " --" ++ option.long ++ valueName option)
    ++ String.join (name.arguments.map fun argument => " <" ++ argument.name ++ ">")

def description (isLong : Bool) (about : List String) : List String :=
  if isLong then about else about.take 1

def programHelp (env : Environment) (isLong : Bool) : List String :=
  description isLong programAbout
    ++ ["Usage: " ++ programName ++ " [OPTIONS] <COMMAND>"]
    ++ underHeading "Commands"
      (Name.all.map commandLine
        ++ [padded 13 helpWord ++ "Print this message or the help of the given subcommand(s)"])
    ++ underHeading "Options" ((globalOptions ++ standardOptions).map (optionLine env))

def commandHelp (env : Environment) (name : Name) (isLong : Bool) : List String :=
  description isLong name.about ++ [usageLine name]
    ++ underHeading "Arguments" (name.arguments.map argumentLine)
    ++ underHeading "Options"
      ((name.options ++ globalOptions ++ standardOptions).map (optionLine env))

/-- The help of the program or of a command. -/
def helpText (env : Environment) (command : Option Name) (isLong : Bool) : String :=
  let paragraphs := match command with
    | none => programHelp env isLong
    | some name => commandHelp env name isLong
  "\n\n".intercalate paragraphs ++ "\n"

end EngineBridge.Command
