import EngineBridge.Command.Options
/-!
# Reading a command line: `Cli::parse`

A command line has two levels: the options before the command, and those and the arguments
after it.  An option is long or short, its value the next word or joined to it; two hyphens
end the options.  Words are read from left to right, and the first that is wrong, or asks for
help or the version, decides.
-/

namespace EngineBridge.Command

inductive UsageProblem where
  | nothingGiven
  | commandMissing
  | unknownCommand (word : String)
  | unexpectedWord (word : String)
  | valueMissing (option : String)
  | unexpectedValue (option : String)
  | badValue (what value : String)
  | repeated (option : String)
  | argumentMissing (name : String)
  | conflict (first second : String)
deriving DecidableEq, Repr

def UsageProblem.message : UsageProblem → String
  | nothingGiven | commandMissing => "a subcommand is required but was not provided"
  | unknownCommand word => "unrecognized subcommand '" ++ word ++ "'"
  | unexpectedWord word => "unexpected argument '" ++ word ++ "' found"
  | valueMissing option => "a value is required for '" ++ option ++ "' but none was supplied"
  | unexpectedValue option => "unexpected value for '" ++ option ++ "' found"
  | badValue what value => "invalid value '" ++ value ++ "' for '" ++ what ++ "'"
  | repeated option => "the argument '" ++ option ++ "' cannot be used multiple times"
  | argumentMissing name =>
    "the following required arguments were not provided: " ++ name
  | conflict first second =>
    "the argument '" ++ first ++ "' cannot be used with '" ++ second ++ "'"

/-- `EngineArgs`: which engine a command talks to. -/
inductive EngineChoice where
  | builtIn
  | library (path : String)
  /-- The one that the configuration names. -/
  | configured
deriving DecidableEq, Repr

/-- `Commands`: a command with all it needs. -/
inductive Invocation where
  | exec (request : String) (engine : EngineChoice) (timeout : Option Nat) (compact : Bool)
  | encode (tag input : String) (output : Option String) (engine : EngineChoice)
  | decode (tag file : String) (compact : Bool) (engine : EngineChoice)
  | info
  | completions (shell : Shell)
deriving DecidableEq, Repr

structure Globals where
  log : Option String
  config : Option String
deriving DecidableEq, Repr

/-- What a command line asks for: the parse of `Cli`, or the help or version it stops for. -/
inductive Request where
  | run (globals : Globals) (invocation : Invocation)
  | help (command : Option Name) (isLong : Bool)
  | version (command : Option Name)
deriving DecidableEq, Repr

/-- What was read on one level: options with their values, a flag's being empty, and
arguments in order. -/
structure Matches where
  options : List (String × String)
  arguments : List String
deriving DecidableEq, Repr

namespace Matches

def empty : Matches := ⟨[], []⟩

def value? (given : Matches) (option : OptionSpec) : Option String :=
  given.options.lookup option.long

def has (given : Matches) (option : OptionSpec) : Bool := (given.value? option).isSome

end Matches

/-- Why reading a level ends early. -/
inductive Interruption where
  | help (isLong : Bool)
  | version
  | usage (problem : UsageProblem)
deriving DecidableEq, Repr

/-- Where on a level the reader stands. -/
inductive LevelState where
  | plain
  /-- The next word is the value of an option. -/
  | awaiting (option : OptionSpec)
  /-- After two hyphens. -/
  | literal
deriving DecidableEq, Repr

/-- How an option is written in messages. -/
def OptionSpec.display (option : OptionSpec) : String := "--" ++ option.long

/-- Notes that an option was given; each may be given once. -/
def Matches.give (given : Matches) (option : OptionSpec) (value : String) :
    Except Interruption Matches :=
  if given.has option then .error (.usage (.repeated option.display))
  else if option.value.all fun form => form.kind.accepts value then
    .ok { given with options := given.options ++ [(option.long, value)] }
  else .error (.usage (.badValue option.display value))

/-- Takes an option whose value, if it is joined to it, is known. -/
def takeOption (given : Matches) (option : OptionSpec) (joined : Option String) :
    Except Interruption (Matches × LevelState) :=
  match option.value, joined with
  | none, none => do return (← given.give option "", .plain)
  | none, some _ => .error (.usage (.unexpectedValue option.display))
  | some _, none =>
    if given.has option then .error (.usage (.repeated option.display))
    else .ok (given, .awaiting option)
  | some _, some value => do return (← given.give option value, .plain)

/-- Takes a long option; `text` follows the two hyphens. -/
def takeLong (options : List OptionSpec) (given : Matches) (text : List Char) :
    Except Interruption (Matches × LevelState) :=
  let long := String.ofList (text.takeWhile (· ≠ '='))
  let joined :=
    match text.dropWhile (· ≠ '=') with
    | [] => none
    | _ :: value => some (String.ofList value)
  if long = "help" ∧ joined.isNone then .error (.help true)
  else if long = "version" ∧ joined.isNone then .error .version
  else
    match options.find? fun option => option.long = long with
    | some option => takeOption given option joined
    | none => .error (.usage (.unexpectedWord ("--" ++ long)))

/-- Takes a short option; `rest` follows its letter and is its value, after an equals sign if
there is one. -/
def takeShort (options : List OptionSpec) (given : Matches) (letter : Char)
    (rest : List Char) : Except Interruption (Matches × LevelState) :=
  if letter = 'h' then .error (.help false)
  else if letter = 'V' then .error .version
  else
    match options.find? fun option => option.short = some letter with
    | none => .error (.usage (.unexpectedWord ("-" ++ String.singleton letter)))
    | some option =>
      match rest with
      | [] => takeOption given option none
      | '=' :: value => takeOption given option (some (String.ofList value))
      | value => takeOption given option (some (String.ofList value))

/-- Reads a level: `isFull` tells whether no further argument may follow those given, and
`stops` whether the level ends at the first word that is no option.  Answers what was given,
and the word the level ended at with all words after it. -/
def readLevel (options : List OptionSpec) (stops : Bool) (arguments : List ArgumentSpec) :
    LevelState → Matches → List String →
      Except Interruption (Matches × Option (String × List String))
  | .awaiting option, _, [] => .error (.usage (.valueMissing option.display))
  | _, given, [] => .ok (given, none)
  | state, given, word :: words =>
    let asArgument (state : LevelState) :
        Except Interruption (Matches × Option (String × List String)) :=
      match arguments.drop given.arguments.length with
      | [] => .error (.usage (.unexpectedWord word))
      | argument :: _ =>
        if argument.kind.accepts word then
          readLevel options stops arguments state
            { given with arguments := given.arguments ++ [word] } words
        else .error (.usage (.badValue argument.name word))
    match state with
    | .awaiting option =>
      if word.toList.headD ' ' = '-' ∧ word ≠ "-" then
        .error (.usage (.valueMissing option.display))
      else do
        let given ← given.give option word
        readLevel options stops arguments .plain given words
    | .literal => asArgument .literal
    | .plain =>
      match word.toList with
      | ['-', '-'] => readLevel options stops arguments .literal given words
      | '-' :: '-' :: text => do
        let (given, state) ← takeLong options given text
        readLevel options stops arguments state given words
      | '-' :: letter :: rest => do
        let (given, state) ← takeShort options given letter rest
        readLevel options stops arguments state given words
      | _ => if stops then .ok (given, some (word, words)) else asArgument .plain

/-- A value that an option accepts. -/
def acceptedValue (option : OptionSpec) (kind : ValueKind) (value : String) :
    Except UsageProblem (Option String) :=
  if kind.accepts value then .ok (some value) else .error (.badValue option.display value)

/-- The value that a variable gives to an option, if there is one and it is set.  One that the
option does not accept is a problem; only a path may be no text. -/
def variableValue (env : Environment) (option : OptionSpec) :
    Except UsageProblem (Option String) :=
  match option.value with
  | none => .ok none
  | some form =>
    match form.variableName.bind env.bytes? with
    | none => .ok none
    | some bytes =>
      match form.kind, Utf8.decode bytes with
      | _, .ok text => acceptedValue option form.kind text
      | .path, .error _ => acceptedValue option .path (Utf8.decodeLossy bytes)
      | _, .error _ => .error (.badValue option.display (Utf8.decodeLossy bytes))

/-- The value of a global option: that after the command, that before it, or that of a
variable, which is looked at unless both are there. -/
def globalValue (env : Environment) (before after : Matches) (option : OptionSpec) :
    Except UsageProblem (Option String) :=
  match after.value? option, before.value? option with
  | some value, some _ => .ok (some value)
  | given, other => do return (given.or other).or (← variableValue env option)

def globalsOf (env : Environment) (before after : Matches) : Except UsageProblem Globals := do
  let log ← globalValue env before after logOption
  let config ← globalValue env before after configOption
  return ⟨log, config⟩

def engineOf (given : Matches) : Except UsageProblem EngineChoice :=
  match given.has builtinFlag, given.value? libraryOption with
  | true, some _ => .error (.conflict builtinFlag.display libraryOption.display)
  | true, none => .ok .builtIn
  | false, some path => .ok (.library path)
  | false, none => .ok .configured

/-- The first required part that a command lacks. -/
def missing? (name : Name) (given : Matches) : Option String :=
  match name.required.find? fun option => !given.has option with
  | some option => some option.display
  | none => ((name.arguments.drop given.arguments.length).head?).map (·.name)

/-- The command that what was read makes. -/
def invocationOf (name : Name) (given : Matches) : Except UsageProblem Invocation := do
  match missing? name given with
  | some part => .error (.argumentMissing part)
  | none =>
    let first := given.arguments.headD ""
    let tag := (given.value? typeOption).getD ""
    let compact := given.options.any fun option => option.1 = compactWord
    match name with
    | .exec =>
      let timeout := (given.value? timeoutOption).bind fun text => (Text.readWord text).toOption
      return .exec first (← engineOf given) timeout compact
    | .encode => return .encode tag first (given.value? outputOption) (← engineOf given)
    | .decode => return .decode tag first compact (← engineOf given)
    | .info => return .info
    | .completions =>
      match Shell.ofName? first with
      | some shell => return .completions shell
      | none => .error (.badValue "SHELL" first)

/-- What an interruption of a level amounts to. -/
def Interruption.request (command : Option Name) : Interruption → Except UsageProblem Request
  | help isLong => .ok (.help command isLong)
  | version => .ok (.version command)
  | usage problem => .error problem

/-- What the words after the command `help` ask for. -/
def helpRequest : List String → Except UsageProblem Request
  | [] => .ok (.help none true)
  | [word] =>
    if word = helpWord then .ok (.help none true)
    else
      match Name.ofWord? word with
      | some name => .ok (.help (some name) true)
      | none => .error (.unknownCommand word)
  | _ :: word :: _ => .error (.unknownCommand word)

def readCommand (env : Environment) (before : Matches) (name : Name) (words : List String) :
    Except UsageProblem Request :=
  match readLevel (name.options ++ globalOptions) false name.arguments .plain .empty words with
  | .error interruption => interruption.request (some name)
  | .ok (given, _) => do
    let invocation ← invocationOf name given
    return .run (← globalsOf env before given) invocation

/-- Reads a command line. -/
def readArguments (env : Environment) (words : List String) : Except UsageProblem Request :=
  match readLevel globalOptions true [] .plain .empty words with
  | .error interruption => interruption.request none
  | .ok (_, none) => .error (if words.isEmpty then .nothingGiven else .commandMissing)
  | .ok (before, some (word, rest)) =>
    match Name.ofWord? word with
    | some name => readCommand env before name rest
    | none => if word = helpWord then helpRequest rest else .error (.unknownCommand word)

end EngineBridge.Command
