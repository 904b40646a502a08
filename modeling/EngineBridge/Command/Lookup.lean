import EngineBridge.Command.Run
/-!
# What a command line looks at

The variables and paths on which the ending of a command line can depend.  Whoever runs a
command line on real files shows these to it, and may leave all others out.  The folders in
which libraries are looked for are known only with the configuration, so they come second.
-/

namespace EngineBridge.Command

def variableNames : List String :=
  [configVariable, Environment.libraryVariable, Environment.timeoutVariable,
    Environment.workersVariable, Environment.logVariable]

/-- The paths that a command's arguments may name. -/
def Invocation.paths : Invocation → List String
  | exec request .. => [request]
  | encode _ input output _ => input :: output.toList
  | decode _ file .. => [file]
  | info => []
  | completions _ => []

/-- The engine that a command talks to, if it talks to one; what describes the configuration
looks for its library too. -/
def Invocation.engine? : Invocation → Option EngineChoice
  | exec _ choice .. => some choice
  | encode _ _ _ choice => some choice
  | decode _ _ _ choice => some choice
  | info => some .configured
  | completions _ => none

/-- The paths of the files that may configure a command. -/
def configPaths (cwd : FilePlace) (home : Option String) (globals : Globals) : List String :=
  globals.config.toList
    ++ (Path.ancestors (FileTree.pathOf cwd)).map
      (fun folder => Path.join folder Surroundings.projectFileName)
    ++ (home.map ConfigLoader.globalPathUnder).toList

/-- The paths that a command line looks at before the configuration is known. -/
def pathsBefore (cwd : FilePlace) (home : Option String) (environment : Environment)
    (words : List String) : List String :=
  match readArguments environment words with
  | .ok (.run globals invocation) => configPaths cwd home globals ++ invocation.paths
  | _ => []

def libraryPaths (session : Session) (words : List String) : List String :=
  match readArguments session.here.environment words with
  | .ok (.run globals invocation) =>
    match loadConfig session globals, invocation.engine? with
    | .ok config, some choice =>
      match targetOf choice config with
      | some target => target :: (config.search session.here.cwd).candidates target
      | none => []
    | _, _ => []
  | _ => []

end EngineBridge.Command
