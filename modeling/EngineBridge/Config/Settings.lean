import EngineBridge.Text.Basic
/-!
# Settings: `ConduitConfig`

What a configuration file can set, all of it optional: the engine library, the deadline of
calls, the number of worker threads and the log filter.

* `validate` — the first setting that cannot be used;
* `merge` — one layer of settings over another: what the upper one sets wins, path and name
  of the library going together, and its search paths come first.
-/

namespace EngineBridge

structure LibrarySettings where
  path : Option String
  name : Option String
  searchPaths : List String
deriving DecidableEq, Repr

structure BridgeSettings where
  /-- The deadline of a call, in milliseconds. -/
  timeout : Option Nat
deriving DecidableEq, Repr

structure EngineSettings where
  workerThreads : Option Nat
deriving DecidableEq, Repr

structure LogSettings where
  filter : Option String
deriving DecidableEq, Repr

/-- `ConduitConfig`: all settings, in sections that may be absent. -/
structure Settings where
  library : Option LibrarySettings
  bridge : Option BridgeSettings
  engine : Option EngineSettings
  log : Option LogSettings
deriving DecidableEq, Repr

/-- A setting that cannot be used. -/
inductive SettingFault where
  | emptyName
  | emptyPath
  | zeroTimeout
  | workersOutOfRange (count : Nat)
  | blankFilter
deriving DecidableEq, Repr

def greatestWorkerCount : Nat := 1024

namespace SettingFault

def setting : SettingFault → String
  | emptyName => "library.name"
  | emptyPath => "library.path"
  | zeroTimeout => "bridge.execute_timeout_ms"
  | workersOutOfRange _ => "engine.worker_threads"
  | blankFilter => "log.filter"

def reason : SettingFault → String
  | emptyName => "name cannot be empty"
  | emptyPath => "path cannot be empty"
  | zeroTimeout => "timeout must be greater than zero"
  | workersOutOfRange count =>
    "must be between 1 and " ++ toString greatestWorkerCount ++ ", got " ++ toString count
  | blankFilter => "filter cannot be empty"

def message (fault : SettingFault) : String :=
  "Invalid value for '" ++ fault.setting ++ "': " ++ fault.reason

end SettingFault

def LibrarySettings.empty : LibrarySettings := ⟨none, none, []⟩

/-- One layer of library settings over another. -/
def LibrarySettings.merge (below above : LibrarySettings) : LibrarySettings :=
  let target := if above.path.isSome ∨ above.name.isSome then above else below
  ⟨target.path, target.name, above.searchPaths ++ below.searchPaths⟩

def BridgeSettings.merge (below above : BridgeSettings) : BridgeSettings :=
  ⟨above.timeout.or below.timeout⟩

def EngineSettings.merge (below above : EngineSettings) : EngineSettings :=
  ⟨above.workerThreads.or below.workerThreads⟩

def LogSettings.merge (below above : LogSettings) : LogSettings :=
  ⟨above.filter.or below.filter⟩

/-- One section over another: a section that only one layer has is taken as it is. -/
def mergeSection {α : Type} (merge : α → α → α) (below above : Option α) : Option α :=
  match below, above with
  | some below, some above => some (merge below above)
  | some below, none => some below
  | none, above => above

namespace Settings

def empty : Settings := ⟨none, none, none, none⟩

/-- `ConduitConfig::merge`: one layer of settings over another. -/
def merge (below above : Settings) : Settings where
  library := mergeSection LibrarySettings.merge below.library above.library
  bridge := mergeSection BridgeSettings.merge below.bridge above.bridge
  engine := mergeSection EngineSettings.merge below.engine above.engine
  log := mergeSection LogSettings.merge below.log above.log

def libraryPath (settings : Settings) : Option String := settings.library.bind (·.path)

def libraryName (settings : Settings) : Option String := settings.library.bind (·.name)

/-- `Config::library_target`: the path, or else the name. -/
def libraryTarget (settings : Settings) : Option String :=
  settings.libraryPath.or settings.libraryName

/-- `Config::search_paths`: the directories searched before those of the system, in order. -/
def searchPaths (settings : Settings) : List String :=
  (settings.library.map (·.searchPaths)).getD []

/-- `Config::execute_timeout` in milliseconds. -/
def timeout (settings : Settings) : Option Nat := settings.bridge.bind (·.timeout)

/-- `Config::worker_threads`. -/
def workerThreads (settings : Settings) : Option Nat := settings.engine.bind (·.workerThreads)

def filter (settings : Settings) : Option String := settings.log.bind (·.filter)

def defaultLogFilter : String := "warn"

/-- `Config::log_filter`. -/
def logFilter (settings : Settings) : String := settings.filter.getD defaultLogFilter

/-- The first setting that cannot be used. -/
def fault? (settings : Settings) : Option SettingFault :=
  if settings.libraryName = some "" then some .emptyName
  else if settings.libraryPath = some "" then some .emptyPath
  else if settings.timeout = some 0 then some .zeroTimeout
  else
    match settings.workerThreads.filter fun count => count = 0 || greatestWorkerCount < count with
    | some count => some (.workersOutOfRange count)
    | none => if settings.filter.any Text.isAllBlank then some .blankFilter else none

/-- `ConduitConfig::validate`. -/
def validate (settings : Settings) : Except SettingFault Unit :=
  match settings.fault? with
  | some fault => .error fault
  | none => .ok ()

end Settings

end EngineBridge
