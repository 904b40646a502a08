import Mathlib.Algebra.Group.Nat.Defs
import EngineBridge.Proofs.Command.Effects
import EngineBridge.Proofs.Command.Flags
import EngineBridge.Proofs.Config.Load
import EngineBridge.Proofs.Json.Records
import EngineBridge.Proofs.Native.Loading
import Mathlib.Data.List.TakeWhile
/-!
# What `info` shows is what is used

`info` shows the values of a configuration (`Shown`), and the other commands are run under the same
one: they open the library that is shown at the path that is shown, and so on (`Uses`).

The log filter is another matter.  The one that is shown is that of the configuration, but a command
uses the one on its command line or in the variable, even if that is empty.
`info_shows_used_iff` says when the two are the same, and `info_shows_unused_filter` that they
need not be.
-/

namespace EngineBridge

/-! ## Worker threads -/

namespace EngineConfig

/-- A number of worker threads is read back. -/
theorem readText_workersText {count : Nat} (fits : count < 2 ^ 64) :
    readText (workersText count) = .ok ⟨some count⟩ := by
  let enter : Option (Option Nat) → Option (Option Nat) := fun _ => some (some count)
  have reads : ∀ field ∈ recordType.fields, Json.ReadsAs field.read (.ofNat count) enter := by
    refine List.forall_mem_singleton.2 fun rest ends => ?_
    simp only [Json.readOptional_ofNat "usize" fits rest ends]
    rfl
  have fills : recordType.Fills recordType.start [("workerThreads", .ofNat count)]
      (enter recordType.start) :=
    .cons rfl rfl (reads _ List.mem_cons_self) .nil
  exact Json.RecordType.readText_object fills ⟨by simp [recordType], rfl⟩

/-- What a configuration asks for is read back, if it is written at all. -/
theorem readText_written {workers : Option Nat}
    (fit : ∀ count, workers = some count → 1 ≤ count ∧ count ≤ 1024) :
    readText ((workers.map workersText).getD emptyText) = .ok ⟨workers⟩ := by
  cases workers with
  | none => rfl
  | some count =>
    obtain ⟨-, most⟩ := fit count rfl
    exact readText_workersText (by omega)

theorem written_sent (workers : Option Nat) :
    ∃ sent, toCText ((workers.map workersText).getD emptyText) = .ok sent := by
  cases workers with
  | none => exact ⟨_, rfl⟩
  | some count => exact toCText_text _

end EngineConfig

/-- At least one worker thread is asked for, and so as many are had. -/
theorem Engine.workerThreads_configure {workers : Option Nat}
    (fit : ∀ count, workers = some count → 1 ≤ count ∧ count ≤ 1024) :
    (builtIn.configure ⟨workers⟩).workerThreads = workers := by
  cases workers with
  | none => rfl
  | some count =>
    obtain ⟨least, -⟩ := fit count rfl
    exact congrArg some (Nat.max_eq_left least)

/-- There is room for as many workers as settings may ask for. -/
theorem Engine.hasRoom_configure {workers : Option Nat}
    (fit : ∀ count, workers = some count → 1 ≤ count ∧ count ≤ 1024) :
    (builtIn.configure ⟨workers⟩).hasRoom = true := by
  unfold hasRoom
  rw [workerThreads_configure fit, Option.all_eq_true]
  intro count asked
  obtain ⟨-, greatest⟩ := fit count asked
  rw [decide_eq_true_eq]
  omega

/-! ## Log filters -/

namespace LogFilter

theorem directivesOf_noComma {chars : List Char} (noComma : ∀ c ∈ chars, c ≠ ',') :
    directivesOf chars = [chars] := by
  induction chars with
  | nil => rfl
  | cons c chars ih =>
    have rest := ih fun d among => noComma d (List.mem_cons_of_mem _ among)
    rw [directivesOf, if_neg (noComma c List.mem_cons_self), rest]

/-- Of the filters that hold nothing but blanks only the empty one can be used. -/
theorem eq_empty_of_check {filter : String} (usable : check filter = .ok ())
    (blank : ∀ c ∈ filter.toList, Text.isBlank c = true) : filter = "" := by
  have noComma : ∀ c ∈ filter.toList, c ≠ ',' := by
    rintro c among rfl
    exact absurd (blank _ among) (by decide)
  rw [check, directivesOf_noComma noComma] at usable
  cases shown : filter.toList with
  | nil => exact String.toList_inj.1 shown
  | cons c chars =>
    rw [shown] at usable blank
    have nothing : Text.trimChars (c :: chars) = [] := by
      have all : (c :: chars).dropWhile Text.isBlank = [] := List.dropWhile_eq_nil_iff.2 blank
      rw [Text.trimChars, all]
      rfl
    have refused : checkDirective (c :: chars) = .error .badDirective := by
      rw [checkDirective, nothing]
      rfl
    simp [refused, bind, Except.bind] at usable

end LogFilter

namespace Settings

variable {settings below above : Settings} {env : Environment}

/-- A log filter that can be used is not blank. -/
theorem Usable.logFilter (usable : settings.Usable) :
    ∃ c ∈ settings.logFilter.toList, Text.isBlank c = false := by
  unfold Settings.logFilter
  cases set : settings.filter with
  | none => exact ⟨'w', by decide, by decide⟩
  | some filter => exact usable.filter filter set

/-- The variable of the log filter wins over all files. -/
theorem logFilter_merge_of_sets {text : String} (layer : env.Layer above)
    (sets : env.Sets "CONDUIT_LOG" text) : (below.merge above).logFilter = text := by
  unfold Settings.logFilter
  rw [filter_merge, (layer.filter text).2 sets]
  rfl

end Settings

namespace Command

variable {session : Session} {globals : Globals} {config : Configuration} {words : List String}

/-! ## Under one configuration -/

/-- What a command does under a configuration. -/
def carryOut (session : Session) (config : Configuration) : Invocation → Step Unit
  | .exec argument choice timeout compact => runExec session config argument choice timeout compact
  | .encode tag argument output choice => runEncode session config tag argument output choice
  | .decode tag file compact choice => runDecode session config tag file compact choice
  | .info => .print (Utf8.encode (infoText config session.here))
  | .completions shell => .print (Utf8.encode (completionText shell))

/-- A command is carried out under the configuration that is loaded first. -/
theorem invoke_prepared (prepared : prepare session globals = .ok config)
    (invocation : Invocation) :
    (invoke session globals invocation).take ⟨[], session.here.files⟩ =
      (carryOut session config invocation).take ⟨[], session.here.files⟩ := by
  have loads : (session.look (prepare · globals)).take ⟨[], session.here.files⟩ =
      (.ok config, ⟨[], session.here.files⟩) := by
    rw [Step.look_sees]
    exact congrArg (·, _) prepared
  cases invocation with
  | completions shell => rfl
  | info =>
    rw [invoke, Step.take_bind, loads, carryOut]
    dsimp only
    rw [Step.take_bind, Step.look_sees]
    rfl
  | exec | encode | decode =>
    rw [invoke, Step.take_bind, loads, carryOut]

theorem run_prepared (prepared : prepare session globals = .ok config) {invocation : Invocation}
    (asked : readArguments session.here.environment words = .ok (.run globals invocation)) :
    run session words = session.finish (carryOut session config invocation) := by
  unfold run
  rw [asked]
  unfold Session.finish
  dsimp only
  rw [invoke_prepared prepared]

/-- A command that ends with exit code zero has found its configuration. -/
theorem exists_prepared
    (asked : readArguments session.here.environment words = .ok (.run globals .info))
    (succeeds : (run session words).exitCode = some 0) :
    ∃ config, prepare session globals = .ok config := by
  rcases ran : (invoke session globals .info).take ⟨[], session.here.files⟩ with ⟨stop | ⟨⟩, done⟩
  · rw [run_of_arguments asked ran] at succeeds
    exact absurd succeeds stop.exitCode_ne_zero
  · obtain ⟨effect, produces, -⟩ := invoke_ok_iff.1 ran
    cases produces with
    | info configures =>
      obtain ⟨loaded, prepared, -⟩ := configures.prepare
      exact ⟨loaded, prepared⟩

/-- The configuration is one whose settings can be used, those of the environment on top of those
of the files, and the log filter in effect can be used too. -/
theorem prepare_ok (prepared : prepare session globals = .ok config) :
    (∃ below environment : Settings, session.here.environment.Layer environment ∧
      config.settings = below.merge environment) ∧
      config.settings.Usable ∧ LogFilter.check (filterOf globals config) = .ok () := by
  obtain ⟨loaded, usable⟩ := Session.prepare_ok_iff.1 prepared
  obtain ⟨environment, project, global, top, -, -, merged, rfl⟩ :=
    Surroundings.load_ok_iff.1 (Session.loadConfig_ok_iff.1 loaded)
  exact ⟨⟨_, environment, Environment.layer_of_settings top, rfl⟩, merged, usable⟩

/-! ## Which log filter is in effect -/

/-- A log filter is left as it is by the one among the words, which has to be the same, or without
one there by the variable, which must not be empty. -/
def LeavesFilter (env : Environment) (filter : String) : Option String → Prop
  | some other => other = filter
  | none => env.bytes? "CONDUIT_LOG" ≠ some []

/-- The log filter of the configuration is in effect if it is left as it is.  A variable that is
blank without being empty cannot be used, and any other text of the variable has gone into the
configuration. -/
theorem filterOf_eq_iff {flag : Option String} (prepared : prepare session globals = .ok config)
    (asks : AsksFilter session.here.environment flag globals.log) :
    filterOf globals config = config.settings.logFilter ↔
      LeavesFilter session.here.environment config.settings.logFilter flag := by
  obtain ⟨⟨below, environment, layer, is⟩, usable, checked⟩ := prepare_ok prepared
  unfold filterOf at checked ⊢
  generalize globals.log = log at asks checked ⊢
  cases asks with
  | byWords filter => rfl
  | nothing unset => simp [LeavesFilter, unset]
  | @byVariable text set =>
    simp only [LeavesFilter, set, ne_eq, Option.some.injEq, Option.getD_some]
    by_cases blank : ∀ c ∈ text.toList, Text.isBlank c = true
    · obtain rfl := LogFilter.eq_empty_of_check checked blank
      obtain ⟨c, among, -⟩ := usable.logFilter
      have other : "" ≠ config.settings.logFilter := by
        intro same
        rw [← same] at among
        cases among
      have nothing : Utf8.encode "" = [] := rfl
      simpa [nothing] using other
    · have sets : session.here.environment.Sets "CONDUIT_LOG" text :=
        ⟨_, set, Utf8.decode_encode text, by simpa using blank⟩
      have same : config.settings.logFilter = text := by
        rw [is]
        exact Settings.logFilter_merge_of_sets layer sets
      have notEmpty : Utf8.encode text ≠ [] := by
        intro empty
        have decoded := Utf8.decode_encode text
        rw [empty] at decoded
        cases decoded
        simp at blank
      simp [same, notEmpty]

/-! ## What is shown -/

theorem openEngine_configured_iff {engine : OpenEngine} :
    openEngine session config .configured = .ok engine ↔
      ∃ target, config.settings.libraryTarget = some target ∧
        ∃ bound host, (config.search session.here.cwd).load session.here.files session.here.cwd
            session.shelf 0 target (engineConfigText config) (Host.start .builtIn) =
              (.ok bound, host) ∧
          engine = ⟨bound.functions, bound.engine, host⟩ := by
  simp only [← Session.openLibrary_ok_iff]
  cases named : config.settings.libraryTarget with
  | none =>
    have fails : openEngine session config .configured = _ := Session.openEngine_unnamed nofun named
    simp [fails]
  | some target => simp [Session.openEngine_named (.bySettings named)]

/-- The values that `info` shows. -/
structure Shown where
  projectFile : Option String
  globalFile : Option String
  /-- The library, and the path that its name leads to. -/
  target : Option String
  path : Option String
  searchPaths : List String
  timeout : Option Nat
  workers : Option Nat
  filter : String
deriving DecidableEq, Repr

namespace Shown

/-- The values of a configuration, as they are found in some surroundings. -/
def ofConfiguration (config : Configuration) (here : Surroundings) : Shown where
  projectFile := config.projectFile
  globalFile := config.globalFile
  target := config.settings.libraryTarget
  path := config.settings.libraryTarget.bind fun target =>
    (config.search here.cwd).resolve here.files here.cwd target
  searchPaths := config.settings.searchPaths
  timeout := config.settings.timeout
  workers := config.settings.workerThreads
  filter := config.settings.logFilter

/-- The lines on the library. -/
def libraryLines (shown : Shown) : List String :=
  match shown.target with
  | none => [infoLine "library:" "(not configured; --builtin available)"]
  | some target =>
    [infoLine "library:" target, infoLine "resolved:" (shown.path.getD "(not found)")]

/-- The lines that show the values. -/
def lines (shown : Shown) : List String :=
  [infoLine "version:"
      (programName ++ " " ++ programVersion ++ " (runtime " ++ programVersion ++ ")"),
    infoLine "project config:" (shown.projectFile.getD "(none)"),
    infoLine "global config:" (shown.globalFile.getD "(none)")]
  ++ shown.libraryLines
  ++ (if shown.searchPaths = [] then []
    else [infoLine "search paths:" (", ".intercalate shown.searchPaths)])
  ++ [infoLine "timeout:" ((shown.timeout.map fun ms => toString ms ++ "ms").getD "none"),
    infoLine "worker threads:" ((shown.workers.map toString).getD "engine default"),
    infoLine "log filter:" shown.filter]

theorem infoText_eq (config : Configuration) (here : Surroundings) :
    infoText config here = String.join (ofConfiguration config here).lines := by
  have library : Command.libraryLines config here = (ofConfiguration config here).libraryLines := by
    unfold Command.libraryLines libraryLines ofConfiguration
    cases config.settings.libraryTarget <;> rfl
  have search : searchPathLines config =
      if config.settings.searchPaths = [] then []
      else [infoLine "search paths:" (", ".intercalate config.settings.searchPaths)] := by
    unfold searchPathLines
    cases config.settings.searchPaths <;> rfl
  unfold infoText
  rw [library, search]
  rfl

/-- The engine of the library that is shown: its file lies at the path that is shown, and the engine
is made with the worker threads that are shown. -/
inductive Opens (shown : Shown) (session : Session) : OpenEngine → Prop where
  | intro {target path : String} {file : LibraryFile Host} {bound : BoundLibrary Host} {host : Host}
    (named : shown.target = some target) (lies : shown.path = some path)
    (loadable : session.shelf path = .ok file)
    (binds : file.bind 0 target (shown.workers.map EngineConfig.workersText) (Host.start .builtIn) =
      (.ok bound, host)) :
    Opens shown session ⟨bound.functions, bound.engine, host⟩

/-- **The configured library is the one that is shown.** -/
theorem opens_configured_iff {engine : OpenEngine} :
    openEngine session config .configured = .ok engine ↔
      (ofConfiguration config session.here).Opens session engine := by
  constructor
  · intro opened
    obtain ⟨target, named, bound, host, loads, rfl⟩ := openEngine_configured_iff.1 opened
    obtain ⟨path, file, found, loadable, binds⟩ := LibrarySearch.load_ok_iff.1 loads
    exact .intro named (by rw [ofConfiguration, named]; exact found) loadable binds
  · rintro ⟨named, lies, loadable, binds⟩
    have named : config.settings.libraryTarget = _ := named
    rw [ofConfiguration, named] at lies
    exact openEngine_configured_iff.2
      ⟨_, named, _, _, LibrarySearch.load_ok_iff.2 ⟨_, _, lies, loadable, binds⟩, rfl⟩

end Shown

/-- What is shown is what commands use that are run with some options: the engine, the deadline and
the worker threads.  The engine is given as many of these as are shown, be it the built-in one or
the reference engine in a library. -/
structure Uses (session : Session) (globals : Globals) (config : Configuration) (shown : Shown) :
    Prop where
  commands : ∀ words invocation,
    readArguments session.here.environment words = .ok (.run globals invocation) →
      run session words = session.finish (carryOut session config invocation)
  opens : ∀ engine,
    openEngine session config .configured = .ok engine ↔ shown.Opens session engine
  timeout : deadline none config = shown.timeout
  builtIn : ∀ engine, openEngine session config .builtIn = .ok engine →
    engine.host.engine.workerThreads = shown.workers
  reference : ∀ engine path, shown.Opens session engine → shown.path = some path →
    session.shelf path = .ok Host.file → engine.host.engine.workerThreads = shown.workers

theorem uses_of_prepared (prepared : prepare session globals = .ok config) :
    Uses session globals config (.ofConfiguration config session.here) where
  commands words invocation asked := run_prepared prepared asked
  opens engine := Shown.opens_configured_iff
  timeout := rfl
  builtIn := by
    intro engine opened
    rw [opens_builtIn_iff.1 (Session.opens_iff.2 opened)]
    exact Engine.workerThreads_configure (prepare_ok prepared).2.1.workers
  reference := by
    intro engine path opens lies loadable
    have workers := (prepare_ok prepared).2.1.workers
    obtain ⟨sent, handed⟩ := EngineConfig.written_sent config.settings.workerThreads
    obtain ⟨target, named, bound, host, loads, rfl⟩ :=
      openEngine_configured_iff.1 (Shown.opens_configured_iff.2 opens)
    rw [Shown.ofConfiguration, named] at lies
    have made := LibrarySearch.load_engine lies loadable 0 (engineConfigText config)
      (Host.start .builtIn) handed
    rw [engineConfigText, EngineSide.engineOf_ok (EngineConfig.readText_written workers)
      (Engine.hasRoom_configure workers)] at made
    obtain ⟨-, rfl⟩ := Prod.mk.inj (loads.symm.trans made)
    exact Engine.workerThreads_configure workers

/-- **What `info` shows is what is used**, but for the log filter: the one that is shown is in
effect exactly if the one among the words is the same, or there is none and the variable is not
empty. -/
theorem info_shows_used_iff (session : Session) (words : List String) (globals : Globals)
    (asked : readArguments session.here.environment words = .ok (.run globals .info))
    (succeeds : (run session words).exitCode = some 0) :
    ∃ config flags, prepare session globals = .ok config ∧
      readArguments ⟨[]⟩ words = .ok (.run flags .info) ∧
      let shown := Shown.ofConfiguration config session.here
      (run session words).output = Utf8.encode (String.join shown.lines) ∧
        Uses session globals config shown ∧
        (filterOf globals config = shown.filter ↔
          LeavesFilter session.here.environment shown.filter flags.log) := by
  obtain ⟨config, prepared⟩ := exists_prepared asked succeeds
  obtain ⟨flags, alone, asks⟩ := asksFilter_of_run asked
  refine ⟨config, flags, prepared, alone, ?_, uses_of_prepared prepared,
    filterOf_eq_iff prepared asks⟩
  rw [run_prepared prepared asked, ← Shown.infoText_eq]
  rfl

/-- A project whose library is in a folder of its own. -/
def vendored : Session where
  here := {
    files := ⟨[(["conduit.toml"], .file (Utf8.encode "[library]\nsearch_paths = ['vendor']\n")),
      (["vendor"], .folder), (["vendor", "libx.so"], .file [])]⟩
    cwd := []
    environment := ⟨[("CONDUIT_LIBRARY", Utf8.encode "x"), ("CONDUIT_WORKERS", Utf8.encode "3"),
      ("CONDUIT_LOG", Utf8.encode "info")]⟩
    home := none }
  input := []
  shelf path := if path = "vendor/libx.so" then .ok Host.file else .error "no library"

/-- Its configuration. -/
def vendoredConfig : Configuration where
  settings := ⟨some ⟨some "x", none, ["vendor"]⟩, none, some ⟨some 3⟩, some ⟨some "info"⟩⟩
  projectFile := some "/conduit.toml"
  globalFile := none

/-- The library is found and its engine gets three worker threads; the variable of the log filter
has gone into the configuration, and is in effect. -/
theorem info_shows_used_vendored :
    readArguments vendored.here.environment ["info"] = .ok (.run ⟨some "info", none⟩ .info) ∧
      (run vendored ["info"]).exitCode = some 0 ∧
      (Shown.ofConfiguration vendoredConfig vendored.here).path = some "vendor/libx.so" ∧
      (∃ engine, openEngine vendored vendoredConfig .configured = .ok engine ∧
        engine.host.engine.workerThreads = some 3) ∧
      filterOf ⟨some "info", none⟩ vendoredConfig = "info" := by
  have asked : readArguments vendored.here.environment ["info"] =
      .ok (.run ⟨some "info", none⟩ .info) := rfl
  have found : (prepare vendored ⟨some "info", none⟩).toOption = some vendoredConfig := by
    decide +kernel
  have found := toOption_eq_some_iff.1 found
  have succeeds : (run vendored ["info"]).exitCode = some 0 := by
    rw [run_prepared found asked]
    rfl
  have path : (Shown.ofConfiguration vendoredConfig vendored.here).path =
      some "vendor/libx.so" := by
    decide +kernel
  have opened : (openEngine vendored vendoredConfig .configured).toOption.isSome = true := by
    decide +kernel
  obtain ⟨engine, opened⟩ := Option.isSome_iff_exists.1 opened
  have opened := toOption_eq_some_iff.1 opened
  obtain ⟨config, flags, prepared, alone, -, uses, filter⟩ :=
    info_shows_used_iff vendored ["info"] _ asked succeeds
  obtain rfl := Except.ok.inj (found.symm.trans prepared)
  have noFlags : readArguments ⟨[]⟩ ["info"] = .ok (.run ⟨none, none⟩ .info) := rfl
  obtain rfl : flags = ⟨none, none⟩ := by
    rw [noFlags] at alone
    cases alone
    rfl
  have workers := uses.reference engine _ ((uses.opens engine).1 opened) path rfl
  have notEmpty : LeavesFilter vendored.here.environment "info" none := by
    show some (Utf8.encode "info") ≠ some []
    decide
  exact ⟨asked, succeeds, path, ⟨engine, opened, workers⟩, filter.2 notEmpty⟩

/-- A log filter on the command line is in effect, and `info` shows another one. -/
theorem info_shows_unused_filter :
    ∃ globals config, readArguments ⟨[]⟩ ["info", "--log", "debug"] = .ok (.run globals .info) ∧
      (run bareSession ["info", "--log", "debug"]).exitCode = some 0 ∧
      prepare bareSession globals = .ok config ∧ filterOf globals config = "debug" ∧
      (Shown.ofConfiguration config bareSession.here).filter = "warn" ∧
      (run bareSession ["info", "--log", "debug"]).output =
        Utf8.encode (String.join (Shown.ofConfiguration config bareSession.here).lines) := by
  have prepared : (prepare bareSession ⟨some "debug", none⟩).toOption = some .empty := by
    decide +kernel
  exact ⟨⟨some "debug", none⟩, .empty, rfl, by decide +kernel, toOption_eq_some_iff.1 prepared, rfl,
    rfl, by decide +kernel⟩

end Command

end EngineBridge
