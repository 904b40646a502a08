import EngineBridge.Config.Load
import EngineBridge.Proofs.Basic
import EngineBridge.Proofs.Config.Layers
import EngineBridge.Proofs.Text.Unsigned
/-!
# Loading a configuration: `ConfigLoader`

`load_effective`: when loading succeeds, and what is in effect then.  Each file must hold settings
that can be used by themselves (`Holds`), whatever the sources above it say, and so only the numbers
in the environment are left to refuse once the layers are put together.
-/

namespace EngineBridge

/-! ## The environment -/

namespace Environment

variable {env : Environment} {name text : String} {layer : Settings} {n : Nat}

/-- A variable is set to a text: it is no other bytes, and not blank. -/
def Sets (env : Environment) (name text : String) : Prop :=
  ∃ bytes, env.bytes? name = some bytes ∧ Utf8.decode bytes = .ok text ∧
    ∃ c ∈ text.toList, Text.isBlank c = false

/-- A variable is set to the text of a number. -/
def SetsNumber (env : Environment) (name : String) (n : Nat) : Prop :=
  ∃ text, env.Sets name text ∧ Text.Writes text n

/-- The settings that the variables make. -/
structure Layer (env : Environment) (layer : Settings) : Prop where
  path : ∀ text, layer.libraryPath = some text ↔ env.Sets "CONDUIT_LIBRARY" text
  name : layer.libraryName = none
  searchPaths : layer.searchPaths = []
  timeout : ∀ ms, layer.timeout = some ms ↔ env.SetsNumber "CONDUIT_TIMEOUT_MS" ms
  workers : ∀ count, layer.workerThreads = some count ↔ env.SetsNumber "CONDUIT_WORKERS" count
  filter : ∀ text, layer.filter = some text ↔ env.Sets "CONDUIT_LOG" text

theorem setting?_eq_some_iff : env.setting? name = some text ↔ env.Sets name text := by
  simp only [setting?, text?, Option.filter_eq_some_iff, Option.bind_eq_some_iff,
    toOption_eq_some_iff, Text.isAllBlank, Sets, Bool.not_eq_true', List.all_eq_false,
    Bool.not_eq_true]
  constructor
  · rintro ⟨⟨bytes, is, reads⟩, holds⟩
    exact ⟨bytes, is, reads, holds⟩
  · rintro ⟨bytes, is, reads, holds⟩
    exact ⟨⟨bytes, is, reads⟩, holds⟩

theorem Sets.unique {other : String} (sets : env.Sets name text) (again : env.Sets name other) :
    other = text :=
  Option.some.inj ((setting?_eq_some_iff.2 again).symm.trans (setting?_eq_some_iff.2 sets))

theorem Sets.setsNumber_iff (sets : env.Sets name text) :
    env.SetsNumber name n ↔ Text.Writes text n := by
  constructor
  · rintro ⟨other, again, writes⟩
    exact sets.unique again ▸ writes
  · exact fun writes => ⟨text, sets, writes⟩

theorem not_sets (is : env.setting? name = none) : ¬ env.Sets name text := fun sets => by
  simp [setting?_eq_some_iff.2 sets] at is

/-- A variable can be read as a number if it is not set, or is set to the text of one. -/
theorem number?_isOk_iff :
    (∃ value, env.number? name = .ok value) ↔
      ∀ text, env.Sets name text → ∃ n, Text.Writes text n := by
  rw [number?]
  cases is : env.setting? name with
  | none => simp [not_sets is]
  | some text =>
    have sets := setting?_eq_some_iff.1 is
    simp only [← Text.readWord_ok_iff]
    constructor
    · rintro ⟨value, given⟩ other again
      obtain rfl := sets.unique again
      cases read : Text.readWord other with
      | ok n => exact ⟨n, rfl⟩
      | error fault => simp [read] at given
    · intro writes
      obtain ⟨n, read⟩ := writes text sets
      exact ⟨some n, by rw [read]⟩

/-- What is read is the number that the variable is set to. -/
theorem number?_eq_some_iff {value : Option Nat} (is : env.number? name = .ok value) :
    value = some n ↔ env.SetsNumber name n := by
  rw [number?] at is
  cases set : env.setting? name with
  | none =>
    simp only [set, Except.ok.injEq] at is
    simp [← is, SetsNumber, not_sets set]
  | some text =>
    rw [(setting?_eq_some_iff.1 set).setsNumber_iff, ← Text.readWord_ok_iff]
    cases read : Text.readWord text with
    | ok m =>
      simp only [set, read, Except.ok.injEq] at is
      simp [← is]
    | error fault => simp [set, read] at is

/-- **The layer of the environment.** -/
theorem layer_of_settings (is : env.settings = .ok layer) : env.Layer layer := by
  simp only [settings, bind_ok_iff, pure, Except.pure, Except.ok.injEq] at is
  obtain ⟨timeout, timeoutRead, workers, workersRead, rfl⟩ := is
  refine ⟨fun text => ?_, ?_, ?_, fun ms => ?_, fun count => ?_, fun text => ?_⟩
  · rw [← setting?_eq_some_iff, ← libraryVariable]
    cases env.setting? libraryVariable <;> simp [Settings.libraryPath]
  · cases env.setting? libraryVariable <;> simp [Settings.libraryName]
  · cases env.setting? libraryVariable <;> simp [Settings.searchPaths]
  · rw [← timeoutVariable, ← number?_eq_some_iff timeoutRead]
    cases timeout <;> simp [Settings.timeout]
  · rw [← workersVariable, ← number?_eq_some_iff workersRead]
    cases workers <;> simp [Settings.workerThreads]
  · rw [← setting?_eq_some_iff, ← logVariable]
    cases env.setting? logVariable <;> simp [Settings.filter]

theorem Layer.setsSame {other : Settings} (is : env.Layer layer) (again : env.Layer other) :
    layer.SetsSame other where
  libraryPath := Option.ext fun text => (is.path text).trans (again.path text).symm
  libraryName := is.name.trans again.name.symm
  searchPaths := is.searchPaths.trans again.searchPaths.symm
  timeout := Option.ext fun ms => (is.timeout ms).trans (again.timeout ms).symm
  workerThreads := Option.ext fun count => (is.workers count).trans (again.workers count).symm
  filter := Option.ext fun text => (is.filter text).trans (again.filter text).symm

/-- The environment makes a layer exactly if its numbers can be read. -/
theorem settings_isOk_iff :
    (∃ layer, env.settings = .ok layer) ↔
      (∀ text, env.Sets "CONDUIT_TIMEOUT_MS" text → ∃ ms, Text.Writes text ms) ∧
        ∀ text, env.Sets "CONDUIT_WORKERS" text → ∃ count, Text.Writes text count := by
  rw [← number?_isOk_iff, ← number?_isOk_iff]
  simp only [settings, bind_ok_iff, pure, Except.pure, Except.ok.injEq]
  constructor
  · rintro ⟨layer, timeout, timeoutRead, workers, workersRead, -⟩
    exact ⟨⟨timeout, timeoutRead⟩, workers, workersRead⟩
  · rintro ⟨⟨timeout, timeoutRead⟩, workers, workersRead⟩
    exact ⟨_, timeout, timeoutRead, workers, workersRead, rfl⟩

/-- A variable is set to a suitable number if its text can be read, as a suitable number. -/
theorem sets_suitable_iff {P : Nat → Prop} :
    (∀ text, env.Sets name text → ∃ n, Text.Writes text n ∧ P n) ↔
      (∀ text, env.Sets name text → ∃ n, Text.Writes text n) ∧
        ∀ n, env.SetsNumber name n → P n := by
  constructor
  · intro suitable
    refine ⟨fun text sets => (suitable text sets).imp fun _ => And.left, ?_⟩
    rintro n ⟨text, sets, writes⟩
    obtain ⟨m, again, holds⟩ := suitable text sets
    have same := (Text.readWord_ok_iff.2 writes).symm.trans (Text.readWord_ok_iff.2 again)
    exact Except.ok.inj same ▸ holds
  · rintro ⟨reads, suitable⟩ text sets
    obtain ⟨n, writes⟩ := reads text sets
    exact ⟨n, writes, suitable n ⟨text, sets, writes⟩⟩

/-- All that can be wrong with the layer of the environment is a number out of range. -/
theorem Layer.usable_iff (is : env.Layer layer) :
    layer.Usable ↔
      (∀ ms, env.SetsNumber "CONDUIT_TIMEOUT_MS" ms → 1 ≤ ms) ∧
        ∀ count, env.SetsNumber "CONDUIT_WORKERS" count → 1 ≤ count ∧ count ≤ 1024 := by
  constructor
  · intro usable
    exact ⟨fun ms sets => usable.timeout ms ((is.timeout ms).2 sets),
      fun count sets => usable.workers count ((is.workers count).2 sets)⟩
  · rintro ⟨timeout, workers⟩
    refine ⟨by simp [is.name], fun empty => ?_, fun ms sets => timeout ms ((is.timeout ms).1 sets),
      fun count sets => workers count ((is.workers count).1 sets), fun text sets => ?_⟩
    · obtain ⟨-, -, -, c, among, -⟩ := (is.path "").1 empty
      simp at among
    · obtain ⟨-, -, -, shown⟩ := (is.filter text).1 sets
      exact shown

end Environment

/-! ## Files -/

namespace Surroundings

variable {here : Surroundings} {path : String} {settings : Settings} {file : Option String}

/-- A file holds settings that can be used by themselves. -/
def Holds (here : Surroundings) (path : String) (settings : Settings) : Prop :=
  ∃ text value, here.files.readText here.cwd path = .ok text ∧ Toml.read text = .ok value ∧
    Schema.settings.read value = .ok settings ∧ settings.Usable

/-- The layer of a file; without a file it is empty. -/
def Layer (here : Surroundings) (settings : Settings) : Option String → Prop
  | none => settings = .empty
  | some path => here.Holds path settings

theorem readConfigText_ok_iff {text : String} :
    here.readConfigText path = .ok text ↔ here.files.readText here.cwd path = .ok text := by
  rw [readConfigText]
  cases here.files.readText here.cwd path with
  | ok text => simp
  | error error => cases error <;> simp

theorem ofDocument_ok_iff {text : String} :
    Settings.ofDocument text = .ok settings ↔
      ∃ value, Toml.read text = .ok value ∧ Schema.settings.read value = .ok settings := by
  rw [Settings.ofDocument]
  cases Toml.read text with
  | ok value => simp [mapError_ok_iff]
  | error line => simp

/-- **The files that are read.** -/
theorem readSettings_ok_iff : here.readSettings path = .ok settings ↔ here.Holds path settings := by
  simp only [readSettings, bind_ok_iff, mapError_ok_iff, readConfigText_ok_iff, ofDocument_ok_iff,
    pure, Except.pure, Except.ok.injEq, Holds]
  constructor
  · rintro ⟨text, read, found, ⟨value, parsed, fits⟩, _, valid, rfl⟩
    exact ⟨text, value, read, parsed, fits, Settings.validate_ok_iff.1 valid⟩
  · rintro ⟨text, value, read, parsed, fits, usable⟩
    exact ⟨text, read, settings, ⟨value, parsed, fits⟩, (), Settings.validate_ok_iff.2 usable, rfl⟩

theorem readOptional_ok_iff : here.readOptional file = .ok settings ↔ here.Layer settings file := by
  cases file with
  | none => simp [readOptional, Layer, eq_comm]
  | some path => exact readSettings_ok_iff

theorem Layer.unique {other : Settings} (layer : here.Layer settings file)
    (again : here.Layer other file) : settings = other :=
  Except.ok.inj ((readOptional_ok_iff.2 layer).symm.trans (readOptional_ok_iff.2 again))

theorem Layer.usable (layer : here.Layer settings file) : settings.Usable := by
  cases file with
  | none => exact layer ▸ Settings.empty_usable
  | some path =>
    obtain ⟨-, -, -, -, -, usable⟩ := layer
    exact usable

/-- A file, if there is one, can be read as a layer. -/
theorem exists_layer_iff :
    (∃ settings, here.Layer settings file) ↔
      ∀ path, file = some path → ∃ settings, here.Holds path settings := by
  cases file with
  | none => simp [Layer]
  | some path => simp [Layer]

/-- The layers lie on one another in the order of their sources. -/
theorem stacked (environment project global : Settings) :
    Settings.Stacked [environment, project, global] ((global.merge project).merge environment) := by
  have bottom : Settings.Stacked [global] global := Settings.stacked_nil.merge global
  exact (bottom.merge project).merge environment

/-- **What is loaded**: the layers are there, and what they make can be used. -/
theorem load_ok_iff {globalPath : Option String} {source : ProjectSource}
    {configuration : Configuration} :
    here.load globalPath source = .ok configuration ↔
      ∃ environment project global, here.environment.settings = .ok environment ∧
        here.Layer project (here.projectFile? source) ∧
        here.Layer global (globalPath.filter fun path => here.files.exists? here.cwd path) ∧
        ((global.merge project).merge environment).Usable ∧
        configuration = ⟨(global.merge project).merge environment, here.projectFile? source,
          globalPath.filter fun path => here.files.exists? here.cwd path⟩ := by
  simp only [load, bind_ok_iff, mapError_ok_iff, readOptional_ok_iff, pure, Except.pure,
    Except.ok.injEq]
  constructor
  · rintro ⟨global, below, project, above, environment, top, _, valid, rfl⟩
    exact ⟨environment, project, global, top, above, below, Settings.validate_ok_iff.1 valid, rfl⟩
  · rintro ⟨environment, project, global, top, above, below, usable, rfl⟩
    exact ⟨global, below, project, above, environment, top, (),
      Settings.validate_ok_iff.2 usable, rfl⟩

end Surroundings

/-! ## What loading comes to -/

/-- Configurations from the same files that set the same. -/
structure Configuration.Agrees (config other : Configuration) : Prop where
  projectFile : config.projectFile = other.projectFile
  globalFile : config.globalFile = other.globalFile
  settings : config.settings.SetsSame other.settings

namespace ConfigLoader

variable {loader : ConfigLoader} {here : Surroundings} {source : ProjectSource}

/-- The global file, if there is one. -/
def globalFile? (loader : ConfigLoader) (here : Surroundings) : Option String :=
  (loader.globalPath? here.home).filter fun path => here.files.exists? here.cwd path

/-- The sources can be used, each by itself. -/
structure Usable (loader : ConfigLoader) (here : Surroundings) (source : ProjectSource) :
    Prop where
  global : ∀ path, loader.globalFile? here = some path → ∃ settings, here.Holds path settings
  project : ∀ path, here.projectFile? source = some path → ∃ settings, here.Holds path settings
  timeout : ∀ text, here.environment.Sets "CONDUIT_TIMEOUT_MS" text →
    ∃ ms, Text.Writes text ms ∧ 1 ≤ ms
  workers : ∀ text, here.environment.Sets "CONDUIT_WORKERS" text →
    ∃ count, Text.Writes text count ∧ 1 ≤ count ∧ count ≤ 1024

/-- What is in effect: settings of the environment above those of the project's file, and those
above the ones of the global file. -/
structure Effective (loader : ConfigLoader) (here : Surroundings) (source : ProjectSource)
    (environment project global : Settings) (configuration : Configuration) : Prop where
  projectFile : configuration.projectFile = here.projectFile? source
  globalFile : configuration.globalFile = loader.globalFile? here
  environmentLayer : here.environment.Layer environment
  projectLayer : here.Layer project configuration.projectFile
  globalLayer : here.Layer global configuration.globalFile
  stacked : Settings.Stacked [environment, project, global] configuration.settings
  /-- The path or else the name that the highest source gives that gives either. -/
  libraryTarget : configuration.settings.libraryTarget =
    ([environment, project, global].find? fun layer => layer.NamesLibrary).bind
      Settings.libraryTarget
  searchPaths : configuration.settings.searchPaths = project.searchPaths ++ global.searchPaths

/-- The environment is all that is left to look at when the files can be used. -/
theorem merged_usable_iff {environment project global : Settings}
    (above : here.Layer project (here.projectFile? source))
    (below : here.Layer global (loader.globalFile? here)) :
    ((global.merge project).merge environment).Usable ↔ environment.Usable :=
  (Surroundings.stacked environment project global).usable_iff (by
    simp [above.usable, below.usable])

/-- Each source can be used by itself exactly if it makes a layer, and that of the environment can
be used. -/
theorem usable_iff :
    loader.Usable here source ↔
      (∃ project, here.Layer project (here.projectFile? source)) ∧
        (∃ global, here.Layer global (loader.globalFile? here)) ∧
          ∃ environment, here.environment.settings = .ok environment ∧ environment.Usable := by
  simp only [Surroundings.exists_layer_iff]
  constructor
  · rintro ⟨below, above, timeout, workers⟩
    obtain ⟨timeoutReads, timeoutFits⟩ := Environment.sets_suitable_iff.1 timeout
    obtain ⟨workersRead, workersFit⟩ := Environment.sets_suitable_iff.1 workers
    obtain ⟨environment, is⟩ := Environment.settings_isOk_iff.2 ⟨timeoutReads, workersRead⟩
    exact ⟨above, below, environment, is,
      (Environment.layer_of_settings is).usable_iff.2 ⟨timeoutFits, workersFit⟩⟩
  · rintro ⟨above, below, environment, is, usable⟩
    obtain ⟨timeoutReads, workersRead⟩ := Environment.settings_isOk_iff.1 ⟨environment, is⟩
    obtain ⟨timeoutFits, workersFit⟩ := (Environment.layer_of_settings is).usable_iff.1 usable
    exact ⟨below, above, Environment.sets_suitable_iff.2 ⟨timeoutReads, timeoutFits⟩,
      Environment.sets_suitable_iff.2 ⟨workersRead, workersFit⟩⟩

theorem load_of_effective {environment project global : Settings} {configuration : Configuration}
    (usable : loader.Usable here source)
    (effective : loader.Effective here source environment project global configuration) :
    ∃ loaded, (loader.load here source).1 = .ok loaded ∧
      loaded.Agrees configuration := by
  obtain ⟨⟨project', above⟩, ⟨global', below⟩, environment', top, fits⟩ := usable_iff.1 usable
  have projectLayer := effective.projectFile ▸ effective.projectLayer
  have globalLayer := effective.globalFile ▸ effective.globalLayer
  obtain rfl := above.unique projectLayer
  obtain rfl := below.unique globalLayer
  have same := (Environment.layer_of_settings top).setsSame effective.environmentLayer
  exact ⟨_, Surroundings.load_ok_iff.2 ⟨environment', project', global', top, above, below,
    (merged_usable_iff above below).2 fits, rfl⟩, effective.projectFile.symm,
    effective.globalFile.symm, (Surroundings.stacked environment' project' global').setsSame same
      effective.stacked⟩

/-- **Loading succeeds exactly if each source can be used by itself, and then each setting is that
of the highest source that sets it.** -/
theorem load_effective (loader : ConfigLoader) (here : Surroundings) (source : ProjectSource) :
    ((∃ configuration, (loader.load here source).1 = .ok configuration) ↔
        loader.Usable here source) ∧
      ∀ configuration, (loader.load here source).1 = .ok configuration →
        ∃ environment project global,
          loader.Effective here source environment project global configuration := by
  refine ⟨?_, fun configuration loaded => ?_⟩
  · rw [usable_iff]
    constructor
    · rintro ⟨configuration, loaded⟩
      obtain ⟨environment, project, global, top, above, below, usable, -⟩ :=
        Surroundings.load_ok_iff.1 loaded
      exact ⟨⟨project, above⟩, ⟨global, below⟩, environment, top,
        (merged_usable_iff above below).1 usable⟩
    · rintro ⟨⟨project, above⟩, ⟨global, below⟩, environment, top, usable⟩
      exact ⟨_, Surroundings.load_ok_iff.2 ⟨environment, project, global, top, above, below,
        (merged_usable_iff above below).2 usable, rfl⟩⟩
  · obtain ⟨environment, project, global, top, above, below, -, rfl⟩ :=
      Surroundings.load_ok_iff.1 loaded
    have stacked := Surroundings.stacked environment project global
    have layer := Environment.layer_of_settings top
    refine ⟨environment, project, global, rfl, rfl, layer, above, below, stacked,
      stacked.libraryTarget, ?_⟩
    rw [stacked.searchPaths]
    simp [layer.searchPaths]

/-- A global file, a project's file and a variable. -/
def threeSources : Surroundings where
  files := ⟨[([], .folder),
    (["home"], .file (Utf8.encode
      "[library]\nname = 'base'\nsearch_paths = ['/base']\n[engine]\nworker_threads = 8\n")),
    (["conduit.toml"], .file (Utf8.encode
      "[library]\npath = '/over.so'\nsearch_paths = ['/over']\n[engine]\nworker_threads = 2\n"))]⟩
  cwd := []
  environment := ⟨[("CONDUIT_TIMEOUT_MS", Utf8.encode "+250"), ("CONDUIT_WORKERS", [0x20])]⟩
  home := none

/-- The path in the project's file puts the name in the global file aside. -/
theorem load_effective_threeSources :
    ∃ configuration environment project global,
      (load ⟨some "/home"⟩ threeSources (.nearest "/")).1 = .ok configuration ∧
        configuration.settings =
          ⟨some ⟨some "/over.so", none, ["/over", "/base"]⟩, some ⟨some 250⟩, some ⟨some 2⟩, none⟩ ∧
        Usable ⟨some "/home"⟩ threeSources (.nearest "/") ∧
        Effective ⟨some "/home"⟩ threeSources (.nearest "/") environment project global
          configuration := by
  have shown : (load ⟨some "/home"⟩ threeSources (.nearest "/")).1.toOption.map (·.settings) =
      some ⟨some ⟨some "/over.so", none, ["/over", "/base"]⟩, some ⟨some 250⟩, some ⟨some 2⟩,
        none⟩ := by
    decide +kernel
  obtain ⟨configuration, is, settings⟩ := Option.map_eq_some_iff.1 shown
  have loaded := toOption_eq_some_iff.1 is
  have effective := load_effective ⟨some "/home"⟩ threeSources (.nearest "/")
  obtain ⟨environment, project, global, layers⟩ := effective.2 configuration loaded
  exact ⟨configuration, environment, project, global, loaded, settings,
    effective.1.1 ⟨configuration, loaded⟩, layers⟩

end ConfigLoader

end EngineBridge
