import EngineBridge.Proofs.Native.Host
/-!
# What loading a library leaves behind: `LibraryLoader::load`

Making an engine can fail, and the library then keeps the reason as the last error of the calling
thread (`RecordsReasons`).  Binding a library asks for an engine only after everything else that
can go wrong, and does not look at the reason: it answers that no engine was made
(`LibraryFile.Binds`).  So a thread without a last error is without one after loading
unless no engine was made, and then the reason waits there for whoever reads a detail next, also
through another bridge on the same library (`LibrarySearch.load_leaves_detail_iff`).
-/

namespace EngineBridge

namespace LibraryFile

variable {σ : Type}

/-- The last error of a thread, as reading the detail there answers it. -/
def detail (file : LibraryFile σ) (thread : ThreadId) (s : σ) : Except Violation (Option String) :=
  (file.functions.readDetail thread s).1

/-- A library that makes no engine keeps the reason as the thread's last error; one that makes an
engine leaves the last error alone. -/
structure RecordsReasons (file : LibraryFile σ) : Prop where
  fails : ∀ {thread config s s'}, file.makeEngine thread config s = (none, s') →
    ∃ reason, file.detail thread s' = .ok (some reason)
  makes : ∀ {thread config s address s'}, file.makeEngine thread config s = (some address, s') →
    file.detail thread s' = file.detail thread s

/-- What binding a library that has all required symbols does to the native side. -/
inductive Binds (file : LibraryFile σ) (thread : ThreadId) (name : String)
    (config : Option String) (s : σ) : Except LoadError (BoundLibrary σ) × σ → Prop where
  /-- The library makes no engines. -/
  | plain (absent : newSymbol ∉ file.symbols) :
    Binds file thread name config s
      (.ok ⟨file.functions, none, file.symbols.contains freeSymbol⟩, s)
  /-- The configuration is not handed over. -/
  | refused {error : BridgeError} (exported : newSymbol ∈ file.symbols)
    (refusal : toCText (config.getD EngineConfig.emptyText) = .error error) :
    Binds file thread name config s (.error (.invalidConfig error.message), s)
  /-- No engine is made. -/
  | fails {sent : CText} {s' : σ} (exported : newSymbol ∈ file.symbols)
    (handed : toCText (config.getD EngineConfig.emptyText) = .ok sent)
    (made : file.makeEngine thread sent s = (none, s')) :
    Binds file thread name config s (.error (.engineInit name), s')
  /-- An engine is made. -/
  | makes {sent : CText} {address : Nat} {s' : σ} (exported : newSymbol ∈ file.symbols)
    (handed : toCText (config.getD EngineConfig.emptyText) = .ok sent)
    (made : file.makeEngine thread sent s = (some address, s')) :
    Binds file thread name config s
      (.ok ⟨file.functions, some address, file.symbols.contains freeSymbol⟩, s')

variable {file : LibraryFile σ} {thread : ThreadId} {name : String} {config : Option String}
  {s : σ}

theorem missingSymbol?_eq_none (complete : ∀ symbol ∈ requiredSymbols, symbol ∈ file.symbols) :
    file.missingSymbol? = none := by
  unfold missingSymbol?
  rw [List.find?_eq_none]
  intro symbol required
  simp [complete symbol required]

theorem bind_binds (complete : ∀ symbol ∈ requiredSymbols, symbol ∈ file.symbols) :
    Binds file thread name config s (file.bind thread name config s) := by
  unfold bind
  rw [missingSymbol?_eq_none complete]
  by_cases exported : newSymbol ∈ file.symbols
  · have some : (!file.symbols.contains newSymbol) = false := by simp [exported]
    simp only [some, Bool.false_eq_true, if_false]
    cases handed : toCText (config.getD EngineConfig.emptyText) with
    | error error => exact .refused exported handed
    | ok sent =>
      simp only
      split
      · rename_i made
        exact .fails exported handed made
      · rename_i made
        exact .makes exported handed made
  · have none : (!file.symbols.contains newSymbol) = true := by simp [exported]
    simp only [none, if_true]
    exact .plain exported

/-- Binding succeeds if all required symbols are there and it goes a way that succeeds. -/
theorem bind_eq_ok_iff {bound : BoundLibrary σ} {s' : σ} :
    file.bind thread name config s = (.ok bound, s') ↔
      (∀ symbol ∈ requiredSymbols, symbol ∈ file.symbols) ∧
        Binds file thread name config s (.ok bound, s') := by
  constructor
  · intro bound
    have complete : ∀ symbol ∈ requiredSymbols, symbol ∈ file.symbols := by
      cases missing : file.missingSymbol? with
      | none => simpa [missingSymbol?] using missing
      | some symbol => simp [bind, missing] at bound
    exact ⟨complete, bound ▸ bind_binds complete⟩
  · rintro ⟨complete, binds⟩
    unfold bind
    rw [missingSymbol?_eq_none complete]
    cases binds with
    | plain absent => simp [absent]
    | makes exported handed made => simp [exported, handed, made]

/-- What a thread without a last error is left with: a reason if no engine was made, else
nothing. -/
theorem Binds.detail {result : Except LoadError (BoundLibrary σ)} {s' : σ}
    (records : file.RecordsReasons) (empty : file.detail thread s = .ok none)
    (binds : Binds file thread name config s (result, s')) :
    (result = .error (.engineInit name) ∧
        ∃ reason, file.detail thread s' = .ok (some reason)) ∨
      (result ≠ .error (.engineInit name) ∧ file.detail thread s' = .ok none) := by
  cases binds with
  | plain absent => exact .inr ⟨nofun, empty⟩
  | refused exported refusal => exact .inr ⟨nofun, empty⟩
  | fails exported handed made => exact .inl ⟨rfl, records.fails made⟩
  | makes exported handed made => exact .inr ⟨nofun, (records.makes made).trans empty⟩

end LibraryFile

/-! ## The engine's library -/

namespace EngineSide

variable {text : String}

theorem engineOf_ok {config : EngineConfig} (read : EngineConfig.readText text = .ok config)
    (room : (Engine.builtIn.configure config).hasRoom = true) :
    engineOf text = .ok (Engine.builtIn.configure config) := by
  have started : (Engine.builtIn.configure config).start = .ok (Engine.builtIn.configure config) :=
    if_pos room
  unfold engineOf
  rw [read]
  exact congrArg (Except.mapError EngineError.startFailed) started

theorem engineOf_refused {error : Json.ReadError}
    (read : EngineConfig.readText text = .error error) :
    engineOf text = .error (configError error) := by
  unfold engineOf
  rw [read]
  rfl

end EngineSide

namespace Host

variable {thread : ThreadId} {host host' : Host} {config : CText}

theorem detail_eq (thread : ThreadId) (host : Host) :
    file.detail thread host = .ok (host.side.lastError thread) := by
  obtain ⟨buffer, host', taken, text, -⟩ := takeDetail_ok thread host
  show (library.readDetail thread host).1 = _
  unfold NativeLibrary.readDetail
  rw [taken, ← text]

/-- No engine is made exactly if the configuration is refused or the engine does not start, and why
is recorded. -/
theorem makeEngine_eq_none (made : makeEngine thread config host = (none, host')) :
    ∃ error, EngineSide.engineArgument (some config) = .error error ∧
      host'.side = host.side.record thread error := by
  unfold makeEngine EngineSide.newEngine at made
  cases argument : EngineSide.engineArgument (some config) with
  | ok engine => simp [argument] at made
  | error error =>
    simp only [argument, Prod.mk.injEq, true_and] at made
    exact ⟨error, rfl, by rw [← made]⟩

/-- An engine that is made starts on the native side as it was. -/
theorem makeEngine_eq_some {address : Nat}
    (made : makeEngine thread config host = (some address, host')) : host'.side = host.side := by
  unfold makeEngine EngineSide.newEngine at made
  cases argument : EngineSide.engineArgument (some config) with
  | ok engine =>
    simp only [argument, Prod.mk.injEq] at made
    rw [← made.2]
  | error error => simp [argument] at made

theorem file_recordsReasons : file.RecordsReasons where
  fails := by
    intro thread config host host' made
    obtain ⟨error, -, side⟩ := makeEngine_eq_none made
    rw [detail_eq, side, EngineSide.record_lastError]
    exact ⟨error.record.text, rfl⟩
  makes := by
    intro thread config host address host' made
    rw [detail_eq, detail_eq, makeEngine_eq_some made]

end Host

/-! ## Loading -/

namespace LibrarySearch

open LibraryFile

variable {σ : Type}

/-- Loading a library that is found and can be loaded binds it. -/
theorem load_eq_bind {search : LibrarySearch} {files : FileTree} {cwd : FilePlace}
    {shelf : LibraryShelf σ} {name path : String} {file : LibraryFile σ}
    (found : search.resolve files cwd name = some path) (loadable : shelf path = .ok file)
    (thread : ThreadId) (config : Option String) (s : σ) :
    search.load files cwd shelf thread name config s = file.bind thread name config s := by
  simp only [load, found, loadable]

/-- Loading the engine's library: an engine of the configuration is put to work, or there is none
and why is recorded. -/
theorem load_engine {search : LibrarySearch} {files : FileTree} {cwd : FilePlace}
    {shelf : LibraryShelf Host} {name path : String} {sent : CText}
    (found : search.resolve files cwd name = some path) (loadable : shelf path = .ok Host.file)
    (thread : ThreadId) (config : Option String) (host : Host)
    (handed : toCText (config.getD EngineConfig.emptyText) = .ok sent) :
    search.load files cwd shelf thread name config host =
      match EngineSide.engineOf (config.getD EngineConfig.emptyText) with
      | .ok engine =>
        (.ok ⟨Host.library, .owned Host.engineAddress⟩,
          { Host.start engine with side := host.side })
      | .error error =>
        (.error (.engineInit name), { host with side := host.side.record thread error }) := by
  have read : EngineSide.textArgument "config" (some sent)
      = .ok (some (config.getD EngineConfig.emptyText)) := by
    simp only [EngineSide.textArgument, decode_toCText handed]
  have argument : EngineSide.engineArgument (some sent) =
      EngineSide.engineOf (config.getD EngineConfig.emptyText) := by
    unfold EngineSide.engineArgument
    rw [read]
    rfl
  have made : Host.file.makeEngine thread sent host = Host.makeEngine thread sent host := rfl
  have complete : Host.file.missingSymbol? = none := by decide
  have makes : (!Host.file.symbols.contains newSymbol) = false := by decide
  have frees : Host.file.symbols.contains freeSymbol = true := by decide
  rw [load_eq_bind found loadable]
  unfold LibraryFile.bind
  simp only [complete, makes, handed, made, Bool.false_eq_true, if_false]
  cases setup : EngineSide.engineOf (config.getD EngineConfig.emptyText) with
  | ok engine =>
    rw [setup] at argument
    simp only [Host.makeEngine, EngineSide.newEngine, argument, frees]
    rfl
  | error error =>
    rw [setup] at argument
    simp only [Host.makeEngine, EngineSide.newEngine, argument]

/-- **Loading leaves an error detail behind exactly if no engine was made.**  The library keeps
the reason as the thread's last error, loading does not take it from there, and so the next that
is read on this thread is this reason. -/
theorem load_leaves_detail_iff (search : LibrarySearch) (files : FileTree) (cwd : FilePlace)
    (shelf : LibraryShelf σ) (file : LibraryFile σ) (name path : String)
    (found : search.resolve files cwd name = some path) (loadable : shelf path = .ok file)
    (complete : ∀ symbol ∈ requiredSymbols, symbol ∈ file.symbols)
    (records : file.RecordsReasons) (thread : ThreadId) (config : Option String) (s : σ)
    (empty : file.detail thread s = .ok none) :
    let loaded := search.load files cwd shelf thread name config s
    (file.detail thread loaded.2 = .ok none ↔ loaded.1 ≠ .error (.engineInit name)) ∧
      (loaded.1 = .error (.engineInit name) →
        ∃ reason, file.detail thread loaded.2 = .ok (some reason)) := by
  intro loaded
  have binds : Binds file thread name config s loaded := by
    show Binds file thread name config s (search.load files cwd shelf thread name config s)
    rw [load_eq_bind found loadable]
    exact bind_binds complete
  clear_value loaded
  obtain ⟨result, s'⟩ := loaded
  rcases binds.detail records empty with ⟨noEngine, reason, left⟩ | ⟨other, left⟩
  · refine ⟨?_, fun _ => ⟨reason, left⟩⟩
    constructor
    · intro gone
      rw [left] at gone
      cases gone
    · intro other
      exact absurd noEngine other
  · refine ⟨⟨fun _ => other, fun _ => left⟩, ?_⟩
    intro noEngine
    exact absurd noEngine other

/-- A folder with the engine's library in it. -/
def engineFolder : FileTree := ⟨[(["engine.so"], .file [])]⟩

/-- A configuration with a setting that the engine does not know. -/
def unknownSetting : String := "\x7b\"threads\":4\x7d"

theorem load_leaves_detail_iff_unknownSetting :
    let loaded := load ⟨["/"]⟩ engineFolder [] (fun _ => .ok Host.file) 0 "engine"
      (some unknownSetting) (Host.start .builtIn)
    Host.file.detail 0 (Host.start .builtIn) = .ok none ∧
      (Host.file.detail 0 loaded.2 = .ok none ↔ loaded.1 ≠ .error (.engineInit "engine")) ∧
      (loaded.1 = .error (.engineInit "engine") →
        ∃ reason, Host.file.detail 0 loaded.2 = .ok (some reason)) :=
  ⟨rfl, load_leaves_detail_iff ⟨["/"]⟩ engineFolder [] (fun _ => .ok Host.file) Host.file "engine"
    "/engine.so" (by decide +kernel) rfl (by decide) Host.file_recordsReasons 0 _ _ rfl⟩

/-- While a bridge is using the library, it is loaded again with a setting that the engine does
not know.  That fails, and what the bridge then reads as its last error is the reason. -/
theorem failed_load_leaves_detail :
    let load := load ⟨["/"]⟩ engineFolder [] (fun _ => .ok Host.file) 0 "engine"
    let first := load none (Host.start .builtIn)
    let second := load (some unknownSetting) first.2
    first.1 = .ok ⟨Host.library, .owned Host.engineAddress⟩ ∧
      (Host.library.readDetail 0 first.2).1 = .ok none ∧
      second.1 = .error (.engineInit "engine") ∧
      (Host.library.readDetail 0 second.2).1 = .ok (some ("\x7b\"kind\":\"InvalidArgument\"," ++
        "\"message\":\"engine config: unknown field `threads`, expected `workerThreads` " ++
        "at line 1 column 10\"\x7d")) := by
  intro load first second
  have found : (⟨["/"]⟩ : LibrarySearch).resolve engineFolder [] "engine" = some "/engine.so" := by
    decide +kernel
  obtain ⟨empty, handedFirst⟩ : ∃ sent, toCText EngineConfig.emptyText = .ok sent :=
    toCText_ok (by decide)
  obtain ⟨sent, handed⟩ : ∃ sent, toCText unknownSetting = .ok sent := toCText_ok (by decide)
  have taken : EngineSide.engineOf EngineConfig.emptyText = .ok (Engine.builtIn.configure ⟨none⟩) :=
    EngineSide.engineOf_ok (by decide +kernel) rfl
  have refusal : EngineSide.engineOf unknownSetting = .error (EngineSide.configError
      ⟨.misfit "unknown field `threads`, expected `workerThreads`", ⟨1, 10⟩⟩) :=
    EngineSide.engineOf_refused (by decide +kernel)
  have makes : first = _ := load_engine found rfl 0 none _ handedFirst
  have fails : second = _ := load_engine found rfl 0 (some unknownSetting) first.2 handed
  simp only [Option.getD_none, taken] at makes
  simp only [Option.getD_some, refusal] at fails
  refine ⟨by rw [makes], ?_, by rw [fails], ?_⟩
  · show Host.file.detail 0 first.2 = _
    rw [Host.detail_eq, makes]
    rfl
  · show Host.file.detail 0 second.2 = _
    rw [Host.detail_eq, fails, EngineSide.record_lastError]
    exact congrArg Except.ok (by decide +kernel)

end LibrarySearch

end EngineBridge
