import EngineBridge.Proofs.Command.Engines
import EngineBridge.Proofs.Native.Loading
import EngineBridge.Proofs.Native.Search
/-!
# What commands look at

Before it does anything a command finds its configuration (`Configures`), reads its input (`Gives`,
`Holds`), opens an engine (`Opens`), and knows how to print the answer (`Shows`).  Each is said here
in terms of what there is in the session, and is what the command's own step finds.

None of this waits for anybody: only a request that was sent does.
-/

namespace EngineBridge.Command

namespace Session

/-! ## What is there -/

/-- The configuration in effect when the project's settings are at a source: each source can be used
by itself, each setting is that of the highest source that sets it, and the log filter in effect,
that of the option or else that of the settings, can be used. -/
structure InEffect (session : Session) (source : ProjectSource) (log : Option String)
    (config : Configuration) : Prop where
  usable : ConfigLoader.Usable ⟨none⟩ session.here source
  effective : ∃ environment project global,
    ConfigLoader.Effective ⟨none⟩ session.here source environment project global config
  filter : LogFilter.check (log.getD config.settings.logFilter) = .ok ()

/-- The configuration that a command has to be run under: that with the project's file that its
options name, or else with the nearest one. -/
inductive Configures (session : Session) : Globals → Configuration → Prop where
  | fromFile {log : Option String} {path : String} {config : Configuration}
    (effect : session.InEffect (.file path) log config) : Configures session ⟨log, some path⟩ config
  | nearest {log : Option String} {config : Configuration}
    (effect : session.InEffect (.nearest (FileTree.pathOf session.here.cwd)) log config) :
    Configures session ⟨log, none⟩ config

/-- The text that an argument stands for. -/
inductive Gives (session : Session) : String → String → Prop where
  | input {text : String} (valid : Utf8.decode session.input = .ok text) : Gives session "-" text
  | file {argument text : String} (other : argument ≠ "-")
    (is : session.here.files.isFile session.here.cwd argument = true)
    (read : session.here.files.readText session.here.cwd argument = .ok text) :
    Gives session argument text
  | itself {argument : String} (other : argument ≠ "-")
    (is : session.here.files.isFile session.here.cwd argument = false) :
    Gives session argument argument

/-- The library that a choice and the configuration name. -/
inductive Names (config : Configuration) : EngineChoice → String → Prop where
  | byChoice {target : String} : Names config (.library target) target
  | bySettings {target : String} (set : config.settings.libraryTarget = some target) :
    Names config .configured target

/-- The engine that a choice opens under a configuration: the built-in one, or that of the library
that is named, if it is found, can be loaded, has all required symbols and is bound. -/
inductive Opens (session : Session) (config : Configuration) : EngineChoice → OpenEngine → Prop where
  | builtIn : Opens session config .builtIn
      (.fresh (Engine.builtIn.configure ⟨config.settings.workerThreads⟩))
  | library {choice : EngineChoice} {target path : String} {file : LibraryFile Host}
    {bound : BoundLibrary Host} {host : Host} (named : Names config choice target)
    (finds : LibrarySearch.Finds
      (config.settings.searchPaths ++ FileTree.pathOf session.here.cwd :: systemLibraryFolders)
      session.here.files session.here.cwd target path)
    (loadable : session.shelf path = .ok file)
    (complete : ∀ symbol ∈ requiredSymbols, symbol ∈ file.symbols)
    (binds : file.Binds 0 target (config.settings.workerThreads.map EngineConfig.workersText)
      (Host.start .builtIn) (.ok bound, host)) :
    Opens session config choice ⟨bound.functions, bound.engine, host⟩

variable {session : Session} {globals : Globals} {config : Configuration} {choice : EngineChoice}
  {engine : OpenEngine} {argument text : String}

theorem gives_iff : session.Gives argument text ↔ readInput session argument = .ok text := by
  unfold readInput
  constructor
  · intro gives
    cases gives with
    | input valid => simp [valid]
    | file other is read => simp [other, is, read]
    | itself other is => simp [other, is]
  · intro read
    by_cases dash : argument = "-"
    · subst dash
      cases valid : Utf8.decode session.input with
      | error fault => simp [valid, stopWith] at read
      | ok input =>
        simp only [valid, if_true, Except.ok.injEq] at read
        exact read ▸ .input valid
    · cases is : session.here.files.isFile session.here.cwd argument with
      | false =>
        simp only [dash, is, Bool.false_eq_true, if_false, Except.ok.injEq] at read
        exact read ▸ .itself dash is
      | true =>
        cases content : session.here.files.readText session.here.cwd argument with
        | error error => simp [dash, is, content, stopWith] at read
        | ok input =>
          simp only [dash, is, content, if_false, if_true, Except.ok.injEq] at read
          exact read ▸ .file dash is content

theorem names_iff {target : String} :
    Names config choice target ↔ choice ≠ .builtIn ∧ targetOf choice config = some target := by
  constructor
  · intro names
    cases names with
    | byChoice => exact ⟨nofun, rfl⟩
    | bySettings set => exact ⟨nofun, set⟩
  · rintro ⟨other, is⟩
    cases choice with
    | builtIn => exact absurd rfl other
    | library path =>
      cases is
      exact .byChoice
    | configured => exact .bySettings is

theorem openLibrary_ok_iff {target : String} : openLibrary session config target = .ok engine ↔
    ∃ bound host, (config.search session.here.cwd).load session.here.files session.here.cwd
        session.shelf 0 target (engineConfigText config) (Host.start .builtIn) = (.ok bound, host) ∧
      engine = ⟨bound.functions, bound.engine, host⟩ := by
  rcases loaded : (config.search session.here.cwd).load session.here.files session.here.cwd
    session.shelf 0 target (engineConfigText config) (Host.start .builtIn) with ⟨error | bound, host⟩
  · simp [openLibrary, loaded, stopWith]
  · simp [openLibrary, loaded, eq_comm]

/-- A library is loaded if it is found and can be bound. -/
theorem load_ok_iff {target : String} {bound : BoundLibrary Host} {host : Host} :
    (config.search session.here.cwd).load session.here.files session.here.cwd session.shelf 0 target
        (engineConfigText config) (Host.start .builtIn) = (.ok bound, host) ↔
      ∃ path file, LibrarySearch.Finds
          (config.settings.searchPaths ++ FileTree.pathOf session.here.cwd :: systemLibraryFolders)
          session.here.files session.here.cwd target path ∧
        session.shelf path = .ok file ∧ (∀ symbol ∈ requiredSymbols, symbol ∈ file.symbols) ∧
        file.Binds 0 target (config.settings.workerThreads.map EngineConfig.workersText)
          (Host.start .builtIn) (.ok bound, host) := by
  have folders : (config.search session.here.cwd).paths =
      config.settings.searchPaths ++ FileTree.pathOf session.here.cwd :: systemLibraryFolders :=
    LibrarySearch.paths_addAll _ _
  rw [LibrarySearch.load_ok_iff]
  simp only [LibrarySearch.resolve_eq_some_iff, folders, LibraryFile.bind_eq_ok_iff, engineConfigText]

theorem openEngine_named {target : String} (named : Names config choice target) :
    openEngine session config choice = openLibrary session config target := by
  cases named with
  | byChoice => rfl
  | bySettings set => simp only [openEngine, targetOf, set]

theorem openEngine_unnamed (other : choice ≠ .builtIn) (unnamed : targetOf choice config = none) :
    openEngine session config choice = .error (.report (.plain nothingConfigured)) := by
  cases choice with
  | builtIn => exact absurd rfl other
  | library path => cases unnamed
  | configured => simp only [openEngine, unnamed]

theorem opens_iff : session.Opens config choice engine ↔
    openEngine session config choice = .ok engine := by
  constructor
  · intro opens
    cases opens with
    | builtIn => rfl
    | library named finds loadable complete binds =>
      rw [openEngine_named named]
      exact openLibrary_ok_iff.2
        ⟨_, _, load_ok_iff.2 ⟨_, _, finds, loadable, complete, binds⟩, rfl⟩
  · intro opened
    by_cases builtIn : choice = .builtIn
    · subst builtIn
      cases opened
      exact .builtIn
    · cases named : targetOf choice config with
      | none =>
        rw [openEngine_unnamed builtIn named] at opened
        cases opened
      | some target =>
        have named := names_iff.2 ⟨builtIn, named⟩
        rw [openEngine_named named] at opened
        obtain ⟨bound, host, loads, rfl⟩ := openLibrary_ok_iff.1 opened
        obtain ⟨path, file, finds, loadable, complete, binds⟩ := load_ok_iff.1 loads
        exact .library named finds loadable complete binds

theorem openEngine_agrees {other : Configuration} (agrees : config.Agrees other)
    (choice : EngineChoice) :
    openEngine session config choice = openEngine session other choice := by
  have target : targetOf choice config = targetOf choice other := by
    cases choice with
    | library path => rfl
    | configured => exact agrees.settings.libraryTarget
    | builtIn => exact agrees.settings.libraryTarget
  have library (name : String) : openLibrary session config name = openLibrary session other name := by
    simp only [openLibrary, Configuration.search, engineConfigText, agrees.settings.searchPaths,
      agrees.settings.workerThreads]
  unfold openEngine
  rw [target, agrees.settings.workerThreads]
  simp only [library]

theorem Opens.agrees {other : Configuration} (opens : session.Opens config choice engine)
    (agrees : other.Agrees config) : session.Opens other choice engine :=
  opens_iff.2 ((openEngine_agrees agrees choice).trans (opens_iff.1 opens))

/-! ### The configuration -/

theorem checkFilter_ok_iff {filter : String} :
    checkFilter filter = .ok () ↔ LogFilter.check filter = .ok () := by
  unfold checkFilter
  split
  · rename_i passes
    simp [passes]
  · rename_i torn
    simp [torn]
  · rename_i fails
    simp [fails]

theorem loadConfig_ok_iff : loadConfig session globals = .ok config ↔
    ((ConfigLoader.mk none).load session.here (projectSource session globals)).1 = .ok config := by
  unfold loadConfig
  rcases (ConfigLoader.mk none).load session.here (projectSource session globals) with
    ⟨error | loaded, loader⟩
  · exact iff_of_false nofun nofun
  · simp

theorem prepare_ok_iff : prepare session globals = .ok config ↔
    loadConfig session globals = .ok config ∧
      LogFilter.check (filterOf globals config) = .ok () := by
  simp only [prepare, bind_ok_iff, pure, Except.pure, Except.ok.injEq]
  constructor
  · rintro ⟨_, loaded, _, checked, rfl⟩
    exact ⟨loaded, checkFilter_ok_iff.1 checked⟩
  · rintro ⟨loaded, checked⟩
    exact ⟨config, loaded, (), checkFilter_ok_iff.2 checked, rfl⟩

theorem configures_iff : session.Configures globals config ↔
    session.InEffect (projectSource session globals) globals.log config := by
  rcases globals with ⟨log, _ | path⟩
  · constructor
    · rintro ⟨⟩
      assumption
    · exact .nearest
  · constructor
    · rintro ⟨⟩
      assumption
    · exact .fromFile

/-- What a command finds is the configuration that it has to be run under. -/
theorem configures_of_prepare (prepared : prepare session globals = .ok config) :
    session.Configures globals config := by
  obtain ⟨loaded, checked⟩ := prepare_ok_iff.1 prepared
  have loaded := loadConfig_ok_iff.1 loaded
  have loads := ConfigLoader.load_effective ⟨none⟩ session.here (projectSource session globals)
  exact configures_iff.2 ⟨loads.1.1 ⟨config, loaded⟩, loads.2 config loaded, checked⟩

/-- If there is such a configuration, a command finds it. -/
theorem Configures.prepare (configures : session.Configures globals config) :
    ∃ loaded, prepare session globals = .ok loaded ∧ loaded.Agrees config := by
  obtain ⟨usable, ⟨environment, project, global, effective⟩, filter⟩ := configures_iff.1 configures
  obtain ⟨loaded, loads, agrees⟩ := ConfigLoader.load_of_effective usable effective
  have checked : LogFilter.check (filterOf globals loaded) = .ok () := by
    rw [filterOf, agrees.settings.logFilter]
    exact filter
  exact ⟨loaded, prepare_ok_iff.2 ⟨loadConfig_ok_iff.2 loads, checked⟩, agrees⟩

/-! ### Other inputs -/

/-- The bytes of the file at a path. -/
def Holds (session : Session) (path : String) (bytes : List UInt8) : Prop :=
  session.here.files.read session.here.cwd path = .ok bytes

theorem holds_iff {path : String} {bytes : List UInt8} :
    session.Holds path bytes ↔ readFrame session path = .ok bytes := by
  unfold Holds
  cases read : session.here.files.read session.here.cwd path with
  | error error => simp [readFrame, read, stopWith]
  | ok content => simp [readFrame, read]

end Session

/-- How a JSON text is printed. -/
inductive Shows : String → Bool → String → Prop where
  | compact {text : String} : Shows text true text
  | pretty {text : String} {value : Json} (read : Json.readText text = .ok value) :
    Shows text false value.pretty

theorem shows_iff {text shown : String} {compact : Bool} :
    Shows text compact shown ↔ formatJson text compact = .ok shown := by
  unfold formatJson
  constructor
  · intro shows
    cases shows with
    | compact => rfl
    | pretty read => simp [read]
  · intro shown
    cases compact with
    | true =>
      cases shown
      exact .compact
    | false =>
      cases read : Json.readText text with
      | error error => simp [read, stopWith] at shown
      | ok value =>
        simp only [read, Bool.false_eq_true, if_false, Except.ok.injEq] at shown
        exact shown ▸ .pretty read

/-- What is shown of a configuration depends on what is set only. -/
theorem infoText_agrees {config other : Configuration} (agrees : config.Agrees other)
    (here : Surroundings) : infoText config here = infoText other here := by
  have library : libraryLines config here = libraryLines other here := by
    simp only [libraryLines, Configuration.search, agrees.settings.libraryTarget,
      agrees.settings.searchPaths]
  have search : searchPathLines config = searchPathLines other := by
    simp only [searchPathLines, agrees.settings.searchPaths]
  simp only [infoText, library, search, agrees.projectFile, agrees.globalFile,
    agrees.settings.timeout, agrees.settings.workerThreads, agrees.settings.logFilter]

/-! ## Nothing to wait for -/

variable {session : Session} {globals : Globals} {config : Configuration}

theorem prepare_ne_standstill : prepare session globals ≠ .error .standstill := by
  unfold prepare loadConfig checkFilter
  simp only [bind, Except.bind]
  split
  · rename_i failed
    split at failed <;> cases failed
    nofun
  · split
    · rename_i failed
      split at failed <;> cases failed <;> nofun
    · nofun

theorem readInput_ne_standstill {argument : String} :
    readInput session argument ≠ .error .standstill := by
  unfold readInput
  dsimp only
  split
  · split <;> nofun
  · split
    · split <;> nofun
    · nofun

theorem readFrame_ne_standstill {file : String} : readFrame session file ≠ .error .standstill := by
  unfold readFrame
  dsimp only
  split <;> nofun

theorem openEngine_ne_standstill {choice : EngineChoice} :
    openEngine session config choice ≠ .error .standstill := by
  unfold openEngine openLibrary
  split
  · nofun
  · split
    · dsimp only
      split <;> nofun
    · nofun

theorem formatJson_ne_standstill {text : String} {compact : Bool} :
    formatJson text compact ≠ .error .standstill := by
  unfold formatJson
  split
  · nofun
  · split <;> nofun

theorem doing_ne_standstill {α : Type} {what : String} {result : Except Failure α} :
    doing what result ≠ .error .standstill := by
  unfold doing
  split <;> nofun

end EngineBridge.Command
