import EngineBridge.Command.Options
import EngineBridge.Config.Load
import EngineBridge.Native.Loading
/-!
# What the other commands would use: `info::render`

The configuration as lines of a key and a value, the values aligned.
-/

namespace EngineBridge

/-- `library_loader`: the search for libraries that a configuration makes, with its own search paths
first and in their order. -/
def Configuration.search (config : Configuration) (cwd : FilePlace) : LibrarySearch :=
  (LibrarySearch.fromFolder cwd).addAll config.settings.searchPaths

namespace Command

def infoLine (key value : String) : String :=
  key ++ String.ofList (List.replicate (16 - key.length) ' ') ++ " " ++ value ++ "\n"

def libraryLines (config : Configuration) (here : Surroundings) : List String :=
  match config.settings.libraryTarget with
  | none => [infoLine "library:" "(not configured; --builtin available)"]
  | some target =>
    let path := (config.search here.cwd).resolve here.files here.cwd target
    [infoLine "library:" target, infoLine "resolved:" (path.getD "(not found)")]

/-- The line on the search paths, if there are any. -/
def searchPathLines (config : Configuration) : List String :=
  match config.settings.searchPaths with
  | [] => []
  | paths => [infoLine "search paths:" (", ".intercalate paths)]

/-- `info::render`: the configuration as text. -/
def infoText (config : Configuration) (here : Surroundings) : String :=
  let settings := config.settings
  String.join <|
    [infoLine "version:"
        (programName ++ " " ++ programVersion ++ " (runtime " ++ programVersion ++ ")"),
      infoLine "project config:" (config.projectFile.getD "(none)"),
      infoLine "global config:" (config.globalFile.getD "(none)")]
    ++ libraryLines config here ++ searchPathLines config
    ++ [infoLine "timeout:" ((settings.timeout.map fun ms => toString ms ++ "ms").getD "none"),
      infoLine "worker threads:" ((settings.workerThreads.map toString).getD "engine default"),
      infoLine "log filter:" settings.logFilter]

end Command

end EngineBridge
