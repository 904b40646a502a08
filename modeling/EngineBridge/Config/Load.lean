import EngineBridge.Config.Environment
import EngineBridge.Toml.Reader
/-!
# Loading the configuration: `ConfigLoader`

Three sources, each above the one before: the global file in the home folder, if there is
one; the project's file; the environment.  Each file must hold usable settings by itself,
even where a higher source sets the same; and what they make together must be usable.

The project's file is given, or the nearest `conduit.toml` in a folder or above it.  A
`ConfigLoader` remembers the path of the global file from the first time it is needed.
-/

namespace EngineBridge

/-- The files and the variables that a configuration is loaded from. -/
structure Surroundings where
  files : FileTree
  cwd : FilePlace
  environment : Environment
  /-- The home folder, if there is one. -/
  home : Option String

/-- `Config`: the settings in effect and the files they came from. -/
structure Configuration where
  settings : Settings
  projectFile : Option String
  globalFile : Option String
deriving DecidableEq, Repr

def Configuration.empty : Configuration := ⟨.empty, none, none⟩

inductive ProjectSource where
  /-- In a given file. -/
  | file (path : String)
  /-- In the nearest file of the project's name, seen from a folder. -/
  | nearest (folder : String)
deriving DecidableEq, Repr

/-- The settings that a document holds. -/
def Settings.ofDocument (text : String) : Except DocumentError Settings :=
  match Toml.read text with
  | .error line => .error (.malformed line)
  | .ok value => (Schema.settings.read value).mapError .misfit

namespace Surroundings

def readConfigText (here : Surroundings) (path : String) : Except ConfigError String :=
  match here.files.readText here.cwd path with
  | .ok text => .ok text
  | .error .notFound => .error (.notFound path)
  | .error error => .error (.unreadable error)

/-- `ConduitConfig::load_from_file`: the settings of a file, if they can be used by themselves. -/
def readSettings (here : Surroundings) (path : String) : Except ConfigError Settings := do
  let text ← here.readConfigText path
  let settings ← (Settings.ofDocument text).mapError (.document path)
  settings.validate.mapError .invalidValue
  return settings

def projectFileName : String := "conduit.toml"

/-- `find_project_file`: the nearest project file, going up from a folder. -/
def nearestProjectFile (here : Surroundings) (folder : String) : Option String :=
  ((Path.ancestors folder).map fun above => Path.join above projectFileName).find? fun path =>
    here.files.isFile here.cwd path

/-- The project's file, if there is one. -/
def projectFile? (here : Surroundings) : ProjectSource → Option String
  | .file path => some path
  | .nearest folder => here.nearestProjectFile folder

def readOptional (here : Surroundings) (path : Option String) : Except ConfigError Settings :=
  match path with
  | none => .ok .empty
  | some path => here.readSettings path

/-- The configuration that a global file, if it exists, and a project source make:
`ConfigLoader::load_from_file` and `ConfigLoader::load_from_directory`. -/
def load (here : Surroundings) (globalPath : Option String) (source : ProjectSource) :
    Except ConfigError Configuration := do
  let globalFile := globalPath.filter fun path => here.files.exists? here.cwd path
  let below ← here.readOptional globalFile
  let projectFile := here.projectFile? source
  let project ← here.readOptional projectFile
  let settings := (below.merge project).merge (← here.environment.settings)
  settings.validate.mapError .invalidValue
  return ⟨settings, projectFile, globalFile⟩

end Surroundings

structure ConfigLoader where
  /-- The path of the global file, once it is known. -/
  globalPath : Option String
deriving DecidableEq, Repr

namespace ConfigLoader

/-- The path of the global file under a home folder. -/
def globalPathUnder (home : String) : String :=
  Path.join (Path.join home ".conduit") "config.toml"

/-- The path of the global file, if it is known by now. -/
def globalPath? (loader : ConfigLoader) (home : Option String) : Option String :=
  loader.globalPath.or (home.map globalPathUnder)

/-- `ConfigLoader::load_global_config` and what follows: loads a configuration, and remembers the
path of the global file. -/
def load (loader : ConfigLoader) (here : Surroundings) (source : ProjectSource) :
    Except ConfigError Configuration × ConfigLoader :=
  let path := loader.globalPath? here.home
  (here.load path source, ⟨path⟩)

end ConfigLoader

end EngineBridge
