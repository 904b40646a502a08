import EngineBridge.Calls.Execution
import EngineBridge.Command.Arguments
import EngineBridge.Command.Completion
import EngineBridge.Command.Help
import EngineBridge.Command.Info
import EngineBridge.Command.Step
/-!
# Running a command: `main`, `exec::run`, `codec::encode`, `codec::decode`

A command runs in a `Session`: the files and variables around it, its standard input, and the
libraries that can be loaded.  It ends with what it has done until then, whether it got to its
end or stopped.

The order of things is fixed: the configuration is loaded, the log filter checked, the input
read, the engine opened, and only then is anything asked of it.
-/

namespace EngineBridge.Command

/-- What a command finds when it starts. -/
structure Session where
  here : Surroundings
  input : List UInt8
  shelf : LibraryShelf Host

namespace Session

def now (session : Session) (done : Progress) : Session :=
  { session with here := { session.here with files := done.files } }

/-- Looks at the session as it is now. -/
def look {α : Type} (session : Session) (at_ : Session → Except Stop α) : Step α := do
  at_ (session.now (← get))

end Session

/-- How a command line ends. -/
inductive Ending where
  /-- It was not understood. -/
  | usage (problem : UsageProblem)
  /-- A command was run, to its end or until it stopped. -/
  | ran (result : Except Stop Unit) (done : Progress)

namespace Ending

/-- The exit code, unless the command never exits. -/
def exitCode : Ending → Option Nat
  | usage _ => some 2
  | ran (.ok ()) _ => some 0
  | ran (.error stop) _ => stop.exitCode

def output : Ending → List UInt8
  | usage _ => []
  | ran _ done => done.output

def errorText : Ending → String
  | usage problem => "error: " ++ problem.message ++ "\n"
  | ran (.ok ()) _ => ""
  | ran (.error stop) _ => stop.errorText

def filesAfter (before : FileTree) : Ending → FileTree
  | usage _ => before
  | ran _ done => done.files

end Ending

/-- Runs a command in the session: nothing is printed yet, and the files are those around it. -/
def Session.finish (session : Session) (command : Step Unit) : Ending :=
  let (result, done) := command.take ⟨[], session.here.files⟩
  .ran result done

/-- An engine that was opened: its functions, and the native side. -/
structure OpenEngine where
  functions : NativeLibrary Host
  engine : EngineHandle
  host : Host

def nothingConfigured : String :=
  "No engine library configured. Pass --library, set CONDUIT_LIBRARY, "
    ++ "add [library] to conduit.toml, or use --builtin"

def targetOf (choice : EngineChoice) (config : Configuration) : Option String :=
  match choice with
  | .library path => some path
  | _ => config.settings.libraryTarget

/-- `engine_config`: the configuration of the engine, as text. -/
def engineConfigText (config : Configuration) : Option String :=
  config.settings.workerThreads.map EngineConfig.workersText

/-- `LibraryLoader::load` for a library that is asked for by a name or a path. -/
def openLibrary (session : Session) (config : Configuration) (target : String) :
    Except Stop OpenEngine :=
  let search := config.search session.here.cwd
  match search.load session.here.files session.here.cwd session.shelf 0 target
      (engineConfigText config) (Host.start .builtIn) with
  | (.ok bound, host) => .ok ⟨bound.functions, bound.engine, host⟩
  | (.error error, _) =>
    stopWith ("Failed to load engine library: " ++ target) (BridgeError.load error).message

/-- `open_bridge`, and `builtin_bridge` where that engine is chosen. -/
def openEngine (session : Session) (config : Configuration) (choice : EngineChoice) :
    Except Stop OpenEngine :=
  match choice with
  | .builtIn =>
    .ok ⟨Host.library, .owned Host.engineAddress,
      Host.start (Engine.builtIn.configure ⟨config.settings.workerThreads⟩)⟩
  | _ =>
    match targetOf choice config with
    | some target => openLibrary session config target
    | none => .error (.report (.plain nothingConfigured))

/-- `read_text_input`: standard input for a hyphen, the content of a file if it names one, else the
argument itself. -/
def readInput (session : Session) (argument : String) : Except Stop String :=
  let here := session.here
  if argument = "-" then
    match Utf8.decode session.input with
    | .ok text => .ok text
    | .error _ => stopWith "Failed to read stdin" FileError.notText.message
  else if here.files.isFile here.cwd argument then
    match here.files.readText here.cwd argument with
    | .ok text => .ok text
    | .error error => stopWith ("Failed to read input file: " ++ argument) error.message
  else .ok argument

/-- `format_json`: a JSON text as it is printed. -/
def formatJson (text : String) (compact : Bool) : Except Stop String :=
  if compact then .ok text
  else
    match Json.readText text with
    | .ok value => .ok value.pretty
    | .error error => stopWith "Engine returned invalid JSON" error.message

/-- `ExecArgs::timeout` in milliseconds: that of the option, or that of the configuration. -/
def deadline (option : Option Nat) (config : Configuration) : Option Nat :=
  option.or config.settings.timeout

/-- The response that was waited for. -/
def awaitedResponse (came : Exchange.Awaited (Outcome × Exchange Host)) : Except Stop String :=
  match came.run with
  | none => .error .standstill
  | some (.error violation) => .error (.fault (.violation violation))
  | some (.ok (.ok response, _)) => .ok response
  | some (.ok (.error error, _)) => stopWith "Request failed" error.message

/-- Sends a request to an opened engine and waits for the response. -/
def execute (engine : OpenEngine) (request : String) (timeout : Option Nat) :
    Except Stop String :=
  awaitedResponse (Exchange.execute (fun _ => engine.functions) 0 request timeout
    (.initial engine.host fun _ => engine.engine))

/-- `exec::run`: sends a request and prints the response. -/
def runExec (session : Session) (config : Configuration) (argument : String)
    (choice : EngineChoice) (timeout : Option Nat) (compact : Bool) : Step Unit := do
  let request ← session.look (readInput · argument)
  let engine ← session.look (openEngine · config choice)
  let response ← execute engine (Text.trim request) (deadline timeout config)
  .printLine (← formatJson response compact)

/-- `codec::encode`: encodes an input, and writes the frame to a file or prints it. -/
def runEncode (session : Session) (config : Configuration) (tag argument : String)
    (output : Option String) (choice : EngineChoice) : Step Unit := do
  let text ← session.look (readInput · argument)
  let engine ← session.look (openEngine · config choice)
  let frame ← doing ("Failed to encode " ++ tag)
    (engine.functions.encodeRaw 0 tag (Text.trim text) engine.host).1
  match output with
  | some path => .save session.here.cwd path frame.bytes
  | none => .print frame.bytes

def readFrame (session : Session) (file : String) : Except Stop (List UInt8) :=
  let here := session.here
  match here.files.read here.cwd file with
  | .ok bytes => .ok bytes
  | .error error => stopWith ("Failed to read " ++ file) error.message

/-- `codec::decode`: decodes a file and prints the text. -/
def runDecode (session : Session) (config : Configuration) (tag file : String)
    (compact : Bool) (choice : EngineChoice) : Step Unit := do
  let bytes ← session.look (readFrame · file)
  let engine ← session.look (openEngine · config choice)
  let text ← doing ("Failed to decode " ++ file)
    (engine.functions.decodeRaw 0 tag bytes engine.host).1
  .printLine (← formatJson text compact)

/-- Where the project's settings are: in the file that the options name, or else in the nearest
one. -/
def projectSource (session : Session) (globals : Globals) : ProjectSource :=
  match globals.config with
  | some path => .file path
  | none => .nearest (FileTree.pathOf session.here.cwd)

/-- `load_config`: the configuration that the options ask for. -/
def loadConfig (session : Session) (globals : Globals) : Except Stop Configuration :=
  match (ConfigLoader.mk none).load session.here (projectSource session globals) with
  | (.ok config, _) => .ok config
  | (.error error, _) => .error (.report ⟨error.message, error.causes⟩)

/-- The log filter in effect: that of the option, or that of the configuration. -/
def filterOf (globals : Globals) (config : Configuration) : String :=
  globals.log.getD config.settings.logFilter

/-- What can fail in `init_tracing`: makes sure that the log filter can be used. -/
def checkFilter (filter : String) : Except Stop Unit :=
  match LogFilter.check filter with
  | .ok () => .ok ()
  | .error .tornCharacter => .error (.fault .tornFilter)
  | .error fault => .error (.report ⟨"Invalid log filter: " ++ filter, fault.chain⟩)

/-- Loads the configuration and checks the log filter, as every command does first. -/
def prepare (session : Session) (globals : Globals) : Except Stop Configuration := do
  let config ← loadConfig session globals
  checkFilter (filterOf globals config)
  return config

/-- Runs a command, as the match in `main` does. -/
def invoke (session : Session) (globals : Globals) (invocation : Invocation) : Step Unit :=
  match invocation with
  | .completions shell => .print (Utf8.encode (completionText shell))
  | .exec argument choice timeout compact => do
    let config ← session.look (prepare · globals)
    runExec session config argument choice timeout compact
  | .encode tag argument output choice => do
    let config ← session.look (prepare · globals)
    runEncode session config tag argument output choice
  | .decode tag file compact choice => do
    let config ← session.look (prepare · globals)
    runDecode session config tag file compact choice
  | .info => do
    let config ← session.look (prepare · globals)
    let text ← session.look fun now => .ok (infoText config now.here)
    .print (Utf8.encode text)

def versionText : Option Name → String
  | none => programName ++ " " ++ programVersion ++ "\n"
  | some command => programName ++ "-" ++ command.word ++ " " ++ programVersion ++ "\n"

/-- Runs a command line. -/
def run (session : Session) (words : List String) : Ending :=
  match readArguments session.here.environment words with
  | .error problem => .usage problem
  | .ok (.help command isLong) =>
    session.finish (.print (Utf8.encode (helpText session.here.environment command isLong)))
  | .ok (.version command) => session.finish (.print (Utf8.encode (versionText command)))
  | .ok (.run globals invocation) => session.finish (invoke session globals invocation)

end EngineBridge.Command
