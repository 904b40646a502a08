import EngineBridge.Proofs.Command.Inputs
import EngineBridge.Proofs.Command.Steps
import EngineBridge.Proofs.Files.Written
/-!
# What commands are for

Every command has one `Effect`: it prints something, or it writes one file.  `Produces` says which
effect a command has in a session, without a word on the order in which things are done: the
configuration can be used, the input is there, the engine opens and answers, and the answer can
be printed.

A command ends with exit code zero exactly if it has an effect, and then that is what it has done;
else it has done nothing (`commands_all_or_nothing`).
-/

namespace EngineBridge.Command

/-! ## Effects -/

/-- What a command does. -/
inductive Effect where
  | prints (bytes : List UInt8)
  | writes (path : String) (bytes : List UInt8)

namespace Effect

/-- An effect that the files allow: a file that is to be written can be. -/
def IsPossible (session : Session) : Effect → Prop
  | prints _ => True
  | writes path bytes => ∃ files, session.here.files.write session.here.cwd path bytes = .ok files

/-- The effect is what was done, and all that was done. -/
def IsDone (session : Session) : Effect → Progress → Prop
  | prints bytes, done => done.output = bytes ∧ done.files = session.here.files
  | writes path bytes, done =>
    done.output = [] ∧ session.here.files.write session.here.cwd path bytes = .ok done.files

/-- The effect as it is seen when a command line has ended: what was printed, or a file that holds
what was written, and nothing else. -/
def IsSeen (session : Session) (effect : Effect) (ending : Ending) : Prop :=
  let after := ending.filesAfter session.here.files
  match effect with
  | prints bytes => ending.output = bytes ∧ after = session.here.files
  | writes path bytes =>
    ending.output = [] ∧ after.read session.here.cwd path = .ok bytes ∧
      ∀ other, after.find session.here.cwd path ≠ .ok other →
        after.entry? other = session.here.files.entry? other

variable {session : Session} {effect : Effect} {done : Progress}

theorem isPossible_iff : effect.IsPossible session ↔ ∃ done, effect.IsDone session done := by
  cases effect with
  | prints bytes => exact ⟨fun _ => ⟨⟨bytes, session.here.files⟩, rfl, rfl⟩, fun _ => trivial⟩
  | writes path bytes =>
    constructor
    · rintro ⟨files, written⟩
      exact ⟨⟨[], files⟩, rfl, written⟩
    · rintro ⟨done, -, written⟩
      exact ⟨done.files, written⟩

theorem IsDone.seen (isDone : effect.IsDone session done) (result : Except Stop Unit) :
    effect.IsSeen session (.ran result done) := by
  cases effect with
  | prints bytes => exact isDone
  | writes path bytes =>
    obtain ⟨output, written⟩ := isDone
    exact ⟨output, FileTree.read_written written, fun other elsewhere =>
      FileTree.write_elsewhere written elsewhere⟩

end Effect

/-- What a command has to do in a session. -/
inductive Session.Produces (session : Session) (globals : Globals) : Invocation → Effect → Prop where
  | exec {argument request response shown : String} {choice : EngineChoice} {timeout : Option Nat}
    {compact : Bool} {config : Configuration} {engine : OpenEngine}
    (configures : session.Configures globals config) (gives : session.Gives argument request)
    (opens : session.Opens config choice engine)
    (answers : engine.Answers (Text.trim request) (timeout.or config.settings.timeout) response)
    (shows : Shows response compact shown) :
    Produces session globals (.exec argument choice timeout compact)
      (.prints (Utf8.encode (shown ++ "\n")))
  | encode {tag argument text : String} {output : Option String} {choice : EngineChoice}
    {config : Configuration} {engine : OpenEngine} {frame : List UInt8}
    (configures : session.Configures globals config) (gives : session.Gives argument text)
    (opens : session.Opens config choice engine)
    (encodes : engine.Encodes tag (Text.trim text) frame) :
    Produces session globals (.encode tag argument output choice)
      (match output with
        | some path => .writes path frame
        | none => .prints frame)
  | decode {tag file text shown : String} {bytes : List UInt8} {choice : EngineChoice}
    {compact : Bool} {config : Configuration} {engine : OpenEngine}
    (configures : session.Configures globals config) (holds : session.Holds file bytes)
    (opens : session.Opens config choice engine) (decodes : engine.Decodes tag bytes text)
    (shows : Shows text compact shown) :
    Produces session globals (.decode tag file compact choice)
      (.prints (Utf8.encode (shown ++ "\n")))
  | info {config : Configuration} (configures : session.Configures globals config) :
    Produces session globals .info (.prints (Utf8.encode (infoText config session.here)))
  | completions {shell : Shell} :
    Produces session globals (.completions shell) (.prints (Utf8.encode (completionText shell)))

/-- A command waits for an answer that never comes: it sends its request without a deadline, and the
engine ignores it. -/
inductive Session.Hangs (session : Session) (globals : Globals) : Invocation → Prop where
  | exec {argument request : String} {choice : EngineChoice} {compact : Bool}
    {config : Configuration} {engine : OpenEngine}
    (configures : session.Configures globals config) (gives : session.Gives argument request)
    (opens : session.Opens config choice engine) (unlimited : config.settings.timeout = none)
    (ignores : engine.Ignores (Text.trim request)) :
    Hangs session globals (.exec argument choice none compact)

/-! ## Commands -/

section Commands

open Step OpenEngine

variable {session : Session} {globals : Globals} {invocation : Invocation} {done : Progress}

theorem now_start : session.now ⟨[], session.here.files⟩ = session := rfl

theorem print_isDone_iff {bytes : List UInt8} :
    (print bytes).take ⟨[], session.here.files⟩ = (.ok (), done) ↔
      (Effect.prints bytes).IsDone session done := by
  rw [print_ok_iff]
  constructor
  · rintro rfl
    exact ⟨rfl, rfl⟩
  · rintro ⟨output, files⟩
    cases done
    rw [← files, ← output]
    rfl

theorem save_isDone_iff {path : String} {bytes : List UInt8} :
    (save session.here.cwd path bytes).take ⟨[], session.here.files⟩ = (.ok (), done) ↔
      (Effect.writes path bytes).IsDone session done := save_ok_iff

theorem exec_ok_iff {argument : String} {choice : EngineChoice} {timeout : Option Nat}
    {compact : Bool} :
    (invoke session globals (.exec argument choice timeout compact)).take
        ⟨[], session.here.files⟩ = (.ok (), done) ↔
      ∃ effect, session.Produces globals (.exec argument choice timeout compact) effect ∧
        effect.IsDone session done := by
  unfold invoke runExec printLine
  simp only [look_bind_ok_iff, lift_bind_ok_iff, now_start, ← Session.gives_iff, ← Session.opens_iff,
    execute_ok_iff, ← shows_iff, print_isDone_iff]
  constructor
  · rintro ⟨config, prepared, request, gives, engine, opens, response, answers, shown, shows, isDone⟩
    exact ⟨_, .exec (Session.configures_of_prepare prepared) gives opens answers shows, isDone⟩
  · rintro ⟨effect, produces, isDone⟩
    cases produces with
    | exec configures gives opens answers shows =>
      obtain ⟨loaded, prepared, agrees⟩ := configures.prepare
      rw [← agrees.settings.timeout] at answers
      exact ⟨_, prepared, _, gives, _, opens.agrees agrees, _, answers, _, shows, isDone⟩

theorem encode_ok_iff {tag argument : String} {output : Option String} {choice : EngineChoice} :
    (invoke session globals (.encode tag argument output choice)).take
        ⟨[], session.here.files⟩ = (.ok (), done) ↔
      ∃ effect, session.Produces globals (.encode tag argument output choice) effect ∧
        effect.IsDone session done := by
  unfold invoke runEncode
  simp only [look_bind_ok_iff, lift_bind_ok_iff, now_start, ← Session.gives_iff, ← Session.opens_iff,
    doing_ok_iff]
  constructor
  · rintro ⟨config, prepared, text, gives, engine, opens, buffer, encoded, ended⟩
    refine ⟨_, .encode (Session.configures_of_prepare prepared) gives opens
      (encodes_iff.2 ⟨buffer, encoded, rfl⟩), ?_⟩
    cases output with
    | some path => exact save_isDone_iff.1 ended
    | none => exact print_isDone_iff.1 ended
  · rintro ⟨effect, produces, isDone⟩
    cases produces with
    | encode configures gives opens encodes =>
      obtain ⟨loaded, prepared, agrees⟩ := configures.prepare
      obtain ⟨buffer, encoded, rfl⟩ := encodes_iff.1 encodes
      refine ⟨_, prepared, _, gives, _, opens.agrees agrees, buffer, encoded, ?_⟩
      cases output with
      | some path => exact save_isDone_iff.2 isDone
      | none => exact print_isDone_iff.2 isDone

theorem decode_ok_iff {tag file : String} {compact : Bool} {choice : EngineChoice} :
    (invoke session globals (.decode tag file compact choice)).take
        ⟨[], session.here.files⟩ = (.ok (), done) ↔
      ∃ effect, session.Produces globals (.decode tag file compact choice) effect ∧
        effect.IsDone session done := by
  unfold invoke runDecode printLine
  simp only [look_bind_ok_iff, lift_bind_ok_iff, now_start, ← Session.holds_iff, ← Session.opens_iff,
    doing_ok_iff, ← decodes_iff, ← shows_iff, print_isDone_iff]
  constructor
  · rintro ⟨config, prepared, bytes, holds, engine, opens, text, decodes, shown, shows, isDone⟩
    exact ⟨_, .decode (Session.configures_of_prepare prepared) holds opens decodes shows, isDone⟩
  · rintro ⟨effect, produces, isDone⟩
    cases produces with
    | decode configures holds opens decodes shows =>
      obtain ⟨loaded, prepared, agrees⟩ := configures.prepare
      exact ⟨_, prepared, _, holds, _, opens.agrees agrees, _, decodes, _, shows, isDone⟩

/-- A command gets to its end exactly if it has an effect that is possible, and has done that. -/
theorem invoke_ok_iff :
    (invoke session globals invocation).take ⟨[], session.here.files⟩ = (.ok (), done) ↔
      ∃ effect, session.Produces globals invocation effect ∧ effect.IsDone session done := by
  cases invocation with
  | exec argument choice timeout compact => exact exec_ok_iff
  | encode tag argument output choice => exact encode_ok_iff
  | decode tag file compact choice => exact decode_ok_iff
  | info =>
    unfold invoke
    simp only [look_bind_ok_iff, now_start, print_isDone_iff, Except.ok.injEq, exists_eq_left']
    constructor
    · rintro ⟨config, prepared, isDone⟩
      exact ⟨_, .info (Session.configures_of_prepare prepared), isDone⟩
    · rintro ⟨effect, produces, isDone⟩
      cases produces with
      | info configures =>
        obtain ⟨loaded, prepared, agrees⟩ := configures.prepare
        rw [← infoText_agrees agrees] at isDone
        exact ⟨_, prepared, isDone⟩
  | completions shell =>
    unfold invoke
    simp only [print_isDone_iff]
    constructor
    · intro isDone
      exact ⟨_, .completions, isDone⟩
    · rintro ⟨effect, produces, isDone⟩
      cases produces with
      | completions => exact isDone

/-- **A command that stops has done nothing**: printing and writing come last. -/
theorem invoke_allOrNothing (session : Session) (globals : Globals) (invocation : Invocation) :
    (invoke session globals invocation).AllOrNothing := by
  cases invocation with
  | exec argument choice timeout compact =>
    refine (look_sees _ _).bind_allOrNothing fun config => ?_
    refine (look_sees _ _).bind_allOrNothing fun request => ?_
    refine (look_sees _ _).bind_allOrNothing fun engine => ?_
    refine (lift_sees _).bind_allOrNothing fun response => ?_
    refine (lift_sees _).bind_allOrNothing fun shown => ?_
    exact print_allOrNothing _
  | encode tag argument output choice =>
    refine (look_sees _ _).bind_allOrNothing fun config => ?_
    refine (look_sees _ _).bind_allOrNothing fun text => ?_
    refine (look_sees _ _).bind_allOrNothing fun engine => ?_
    refine (lift_sees _).bind_allOrNothing fun frame => ?_
    cases output with
    | some path => exact save_allOrNothing _ path _
    | none => exact print_allOrNothing _
  | decode tag file compact choice =>
    refine (look_sees _ _).bind_allOrNothing fun config => ?_
    refine (look_sees _ _).bind_allOrNothing fun bytes => ?_
    refine (look_sees _ _).bind_allOrNothing fun engine => ?_
    refine (lift_sees _).bind_allOrNothing fun text => ?_
    refine (lift_sees _).bind_allOrNothing fun shown => ?_
    exact print_allOrNothing _
  | info =>
    refine (look_sees _ _).bind_allOrNothing fun config => ?_
    refine (look_sees _ _).bind_allOrNothing fun text => ?_
    exact print_allOrNothing _
  | completions shell => exact print_allOrNothing _

/-- A command that has a possible effect gets to its end. -/
theorem invoke_of_produces {effect : Effect}
    (produces : session.Produces globals invocation effect)
    (possible : effect.IsPossible session) :
    ∃ done, (invoke session globals invocation).take ⟨[], session.here.files⟩ = (.ok (), done) ∧
      effect.IsDone session done := by
  obtain ⟨done, isDone⟩ := Effect.isPossible_iff.1 possible
  exact ⟨done, invoke_ok_iff.2 ⟨effect, produces, isDone⟩, isDone⟩

/-- **Only a request that is ignored is waited for in vain.** -/
theorem invoke_stands_iff :
    (invoke session globals invocation).Stands ⟨[], session.here.files⟩ ↔
      session.Hangs globals invocation := by
  cases invocation with
  | exec argument choice timeout compact =>
    unfold invoke runExec printLine
    simp only [look_bind_stands_iff, lift_bind_stands_iff, now_start, prepare_ne_standstill,
      readInput_ne_standstill, openEngine_ne_standstill, formatJson_ne_standstill, print_not_stands,
      execute_standstill_iff, false_or, or_false, and_false, exists_false, ← Session.gives_iff,
      ← Session.opens_iff]
    constructor
    · rintro ⟨config, prepared, request, gives, engine, opens, unlimited, ignores⟩
      obtain ⟨rfl, unlimited⟩ := Option.or_eq_none_iff.1 unlimited
      exact .exec (Session.configures_of_prepare prepared) gives opens unlimited ignores
    · intro hangs
      cases hangs with
      | exec configures gives opens unlimited ignores =>
        obtain ⟨loaded, prepared, agrees⟩ := configures.prepare
        rw [← agrees.settings.timeout] at unlimited
        exact ⟨_, prepared, _, gives, _, opens.agrees agrees, unlimited, ignores⟩
  | encode tag argument output choice =>
    refine iff_of_false ?_ nofun
    unfold invoke runEncode
    simp only [look_bind_stands_iff, lift_bind_stands_iff, prepare_ne_standstill,
      readInput_ne_standstill, openEngine_ne_standstill, doing_ne_standstill, false_or, not_exists,
      not_and]
    intro config _ text _ engine _ frame _
    cases output with
    | some path => exact save_not_stands _ path _
    | none => exact print_not_stands _
  | decode tag file compact choice =>
    refine iff_of_false ?_ nofun
    unfold invoke runDecode printLine
    simp only [look_bind_stands_iff, lift_bind_stands_iff, prepare_ne_standstill,
      readFrame_ne_standstill, openEngine_ne_standstill, doing_ne_standstill,
      formatJson_ne_standstill, print_not_stands, and_false, exists_false, or_false, not_false_eq_true]
  | info =>
    refine iff_of_false ?_ nofun
    unfold invoke
    simp only [look_bind_stands_iff, prepare_ne_standstill, print_not_stands, reduceCtorEq, and_false,
      exists_false, or_false, not_false_eq_true]
  | completions shell => exact iff_of_false (print_not_stands _) nofun

theorem Stop.exitCode_ne_zero (stop : Stop) : stop.exitCode ≠ some 0 := by
  cases stop <;> nofun

theorem Stop.exitCode_eq_none_iff {stop : Stop} : stop.exitCode = none ↔ stop = .standstill := by
  cases stop <;> simp [Stop.exitCode]

/-- A command line ends the way its command does. -/
theorem run_of_arguments {words : List String} {result : Except Stop Unit}
    (asked : readArguments session.here.environment words = .ok (.run globals invocation))
    (ran : (invoke session globals invocation).take ⟨[], session.here.files⟩ = (result, done)) :
    run session words = .ran result done := by
  simp only [run, asked, Session.finish, ran]

/-- **Commands are all or nothing.**  A command line ends with exit code zero exactly if its command
has an effect and the file that it is to write, if any, can be written.  Whoever looks then sees
that effect and nothing else.  It does not end at all exactly if it sends a request without a
deadline to an engine that ignores it.  Without an exit code and with any other one nothing is
printed and every file is as it was. -/
theorem commands_all_or_nothing (session : Session) (words : List String) (globals : Globals)
    (invocation : Invocation)
    (asked : readArguments session.here.environment words = .ok (.run globals invocation)) :
    let ending := run session words
    (ending.exitCode = some 0 ↔
        ∃ effect, session.Produces globals invocation effect ∧ effect.IsPossible session) ∧
      (∀ effect, session.Produces globals invocation effect → effect.IsPossible session →
        effect.IsSeen session ending) ∧
      (ending.exitCode = none ↔ session.Hangs globals invocation) ∧
      (ending.exitCode ≠ some 0 →
        ending.output = [] ∧ ending.filesAfter session.here.files = session.here.files) := by
  intro ending
  rcases ran : (invoke session globals invocation).take ⟨[], session.here.files⟩
    with ⟨stop | ⟨⟩, done⟩
  · have ended : ending = .ran (.error stop) done := run_of_arguments asked ran
    have nothing : done = ⟨[], session.here.files⟩ :=
      invoke_allOrNothing session globals invocation _ stop done ran
    have failed : ending.exitCode ≠ some 0 := by
      rw [ended]
      exact Stop.exitCode_ne_zero stop
    have noEffect : ¬ ∃ effect, session.Produces globals invocation effect ∧
        effect.IsPossible session := by
      rintro ⟨effect, produces, possible⟩
      obtain ⟨done', gets, -⟩ := invoke_of_produces produces possible
      rw [ran] at gets
      cases gets
    refine ⟨iff_of_false failed noEffect, fun effect produces possible => ?_, ?_, fun _ => ?_⟩
    · exact absurd ⟨effect, produces, possible⟩ noEffect
    · rw [← invoke_stands_iff, Stands, ran, ended]
      show stop.exitCode = none ↔ Except.error stop = .error .standstill
      rw [Stop.exitCode_eq_none_iff, Except.error.injEq]
    · rw [ended, nothing]
      exact ⟨rfl, rfl⟩
  · have ended : ending = .ran (.ok ()) done := run_of_arguments asked ran
    have succeeded : ending.exitCode = some 0 := by
      rw [ended]
      rfl
    have ends : ¬ session.Hangs globals invocation := by
      rw [← invoke_stands_iff, Stands, ran]
      intro stands
      cases stands
    obtain ⟨effect, produces, isDone⟩ := invoke_ok_iff.1 ran
    refine ⟨iff_of_true succeeded ⟨effect, produces, Effect.isPossible_iff.2 ⟨done, isDone⟩⟩,
      fun other produces possible => ?_, iff_of_false (by simp [succeeded]) ends,
      fun failed => absurd succeeded failed⟩
    obtain ⟨done', gets, isDone⟩ := invoke_of_produces produces possible
    rw [ran] at gets
    cases gets
    rw [ended]
    exact isDone.seen (.ok ())

/-- A session without files, variables and libraries. -/
def bareSession : Session := ⟨⟨.empty, [], ⟨[]⟩, none⟩, [], fun _ => .error "no library"⟩

/-- Encodes a text with the built-in engine into a file. -/
def encodeWords (text : String) : List String :=
  ["encode", "-t", "T", text, "-o", "frame", "--builtin"]

theorem commands_all_or_nothing_encode :
    ((run bareSession (encodeWords "[1]")).exitCode = some 0 ∧
        ∃ effect, bareSession.Produces ⟨none, none⟩
            (.encode "T" "[1]" (some "frame") .builtIn) effect ∧
          effect.IsSeen bareSession (run bareSession (encodeWords "[1]"))) ∧
      (run bareSession (encodeWords "[1")).exitCode = some 1 ∧
        (run bareSession (encodeWords "[1")).output = [] ∧
        (run bareSession (encodeWords "[1")).filesAfter .empty = .empty := by
  have whole := commands_all_or_nothing bareSession (encodeWords "[1]") ⟨none, none⟩
    (.encode "T" "[1]" (some "frame") .builtIn) (by decide +kernel)
  have broken := commands_all_or_nothing bareSession (encodeWords "[1") ⟨none, none⟩
    (.encode "T" "[1" (some "frame") .builtIn) (by decide +kernel)
  have succeeds : (run bareSession (encodeWords "[1]")).exitCode = some 0 := by decide +kernel
  have fails : (run bareSession (encodeWords "[1")).exitCode = some 1 := by decide +kernel
  obtain ⟨effect, produces, possible⟩ := whole.1.1 succeeds
  refine ⟨⟨succeeds, effect, produces, whole.2.1 effect produces possible⟩, fails, ?_⟩
  exact broken.2.2.2 (by simp [fails])

end Commands

/-! ## With the built-in engine -/

section BuiltIn

variable {session : Session} {globals : Globals} {effect : Effect}

theorem opens_builtIn_iff {config : Configuration} {engine : OpenEngine} :
    session.Opens config .builtIn engine ↔
      engine = .fresh (Engine.builtIn.configure ⟨config.settings.workerThreads⟩) := by
  rw [Session.opens_iff]
  constructor
  · intro opened
    cases opened
    rfl
  · rintro rfl
    rfl

/-- How many workers an engine has makes no difference to its operations. -/
theorem operations_configure (engine : Engine) (config : EngineConfig) :
    (engine.configure config).operations = engine.operations := by
  unfold Engine.configure
  cases config.workerThreads with
  | none => rfl
  | some count => rfl

/-- A request is answered with what its operation answers, if that takes no longer than the
deadline. -/
theorem produces_exec_builtIn_iff {argument : String} {timeout : Option Nat} {compact : Bool} :
    session.Produces globals (.exec argument .builtIn timeout compact) effect ↔
      ∃ config request response shown, session.Configures globals config ∧
        session.Gives argument request ∧ (∃ sent, toCText (Text.trim request) = .ok sent) ∧
        (∀ ms ∈ timeout.or config.settings.timeout,
          Engine.builtIn.milliseconds (Text.trim request) ≤ ms) ∧
        Engine.builtIn.dispatch (Text.trim request) = .ok response ∧
        Shows response compact shown ∧ effect = .prints (Utf8.encode (shown ++ "\n")) := by
  have answers {config : Configuration} {request response : String} :
      (OpenEngine.fresh (Engine.builtIn.configure ⟨config.settings.workerThreads⟩)).Answers
          request (timeout.or config.settings.timeout) response ↔
        (∃ sent, toCText request = .ok sent) ∧
          (∀ ms ∈ timeout.or config.settings.timeout, Engine.builtIn.milliseconds request ≤ ms) ∧
          Engine.builtIn.dispatch request = .ok response := by
    rw [OpenEngine.fresh_answers_iff]
    simp only [Engine.milliseconds, Engine.dispatch, Engine.select, operations_configure]
  constructor
  · intro produces
    cases produces with
    | exec configures gives opens answered shows =>
      obtain rfl := opens_builtIn_iff.1 opens
      obtain ⟨sent, inTime, answered⟩ := answers.1 answered
      exact ⟨_, _, _, _, configures, gives, sent, inTime, answered, shows, rfl⟩
  · rintro ⟨config, request, response, shown, configures, gives, sent, inTime, answered, shows, rfl⟩
    exact .exec configures gives (opens_builtIn_iff.2 rfl) (answers.2 ⟨sent, inTime, answered⟩) shows

theorem not_hangs_builtIn {argument : String} {timeout : Option Nat} {compact : Bool} :
    ¬ session.Hangs globals (.exec argument .builtIn timeout compact) := by
  intro hangs
  cases hangs with
  | exec configures gives opens unlimited ignores =>
    obtain rfl := opens_builtIn_iff.1 opens
    exact OpenEngine.not_fresh_ignores ignores

theorem produces_encode_builtIn_iff {tag argument path : String} :
    session.Produces globals (.encode tag argument (some path) .builtIn) effect ↔
      ∃ config text frame, session.Configures globals config ∧ session.Gives argument text ∧
        (∃ sent, toCText tag = .ok sent) ∧ (∃ sent, toCText (Text.trim text) = .ok sent) ∧
        Frame.encode tag (Text.trim text) = .ok frame ∧ effect = .writes path frame := by
  constructor
  · intro produces
    cases produces with
    | encode configures gives opens encodes =>
      obtain rfl := opens_builtIn_iff.1 opens
      obtain ⟨tagSent, textSent, encoded⟩ := OpenEngine.fresh_encodes_iff.1 encodes
      exact ⟨_, _, _, configures, gives, tagSent, textSent, encoded, rfl⟩
  · rintro ⟨config, text, frame, configures, gives, tagSent, textSent, encoded, rfl⟩
    exact .encode configures gives (opens_builtIn_iff.2 rfl)
      (OpenEngine.fresh_encodes_iff.2 ⟨tagSent, textSent, encoded⟩)

/-- A frame of the tag is printed as its text. -/
theorem produces_decode_builtIn_iff {tag file : String} {compact : Bool} :
    session.Produces globals (.decode tag file compact .builtIn) effect ↔
      ∃ config bytes text shown, session.Configures globals config ∧ session.Holds file bytes ∧
        (∃ sent, toCText tag = .ok sent) ∧ Frame.decode tag bytes = .ok text ∧
        Shows text compact shown ∧ effect = .prints (Utf8.encode (shown ++ "\n")) := by
  constructor
  · intro produces
    cases produces with
    | decode configures holds opens decodes shows =>
      obtain rfl := opens_builtIn_iff.1 opens
      obtain ⟨tagSent, decoded⟩ := OpenEngine.fresh_decodes_iff.1 decodes
      exact ⟨_, _, _, _, configures, holds, tagSent, decoded, shows, rfl⟩
  · rintro ⟨config, bytes, text, shown, configures, holds, tagSent, decoded, shows, rfl⟩
    exact .decode configures holds (opens_builtIn_iff.2 rfl)
      (OpenEngine.fresh_decodes_iff.2 ⟨tagSent, decoded⟩) shows

end BuiltIn

end EngineBridge.Command
