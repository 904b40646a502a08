import EngineBridge.Calls.Execution
import EngineBridge.Proofs.Calls.Serving
import EngineBridge.Proofs.Calls.Stages
/-!
# A request on its own

The first request that an engine is given, while nobody else asks anything of it.  Only one callback
can bring its outcome (`FirstCallback`): the one that the engine makes at once, or else that of the
job it is done with first.  Any other breaks the rules, as it is for a call that is unknown or was
answered before.

`execute_ok_iff` says for every library what such a request comes to, and `execute_eq_none_iff` when
waiting for it never ends.  The engine's own library keeps nobody waiting (`execute_alone`).
-/

namespace EngineBridge

namespace Host

variable {deadline : Option Nat} {host : Host} {job : Job}

theorem firstJob_eq_none_iff {jobs : List Job} : firstJob jobs = none ↔ jobs = [] := by
  cases jobs with
  | nil => exact iff_of_true rfl rfl
  | cons job rest =>
    unfold firstJob
    split
    · simp
    · split <;> simp

theorem nextJob_eq_some_iff : host.nextJob deadline = some job ↔
    firstJob host.jobs = some job ∧ ∀ time ∈ deadline, job.due ≤ time := by
  unfold nextJob
  rw [Option.filter_eq_some_iff]
  cases deadline <;> simp

theorem nextJob_eq_none_iff : host.nextJob deadline = none ↔
    ∀ job, firstJob host.jobs = some job → ∃ time ∈ deadline, time < job.due := by
  unfold nextJob
  rw [Option.filter_eq_none_iff]
  cases deadline <;> simp

end Host

/-! ## The first callback -/

/-- The token of the first call. -/
def firstToken : Token := 1

namespace NativeLibrary

/-- The callback that can bring the outcome of the first request, and the native side then: the
engine makes it at once, and no other, or it makes none and is done with its first job by the
deadline. -/
inductive FirstCallback (library : NativeLibrary Host) (text : CText) (host : Host)
    (deadline : Option Nat) : Callback → Host → Prop where
  | atOnce {callback : Callback} {host' : Host}
    (accepts : library.execute firstToken text host = ([callback], host')) :
    FirstCallback library text host deadline callback host'
  | later {job : Job} {host' : Host}
    (accepts : library.execute firstToken text host = ([], host'))
    (next : Host.firstJob host'.jobs = some job) (inTime : ∀ time ∈ deadline, job.due ≤ time) :
    FirstCallback library text host deadline (host'.finish job).1 (host'.finish job).2

/-- An engine makes one callback that is in time, or more than one, or none in time. -/
theorem FirstCallback.or_not (library : NativeLibrary Host) (text : CText) (host : Host)
    (deadline : Option Nat) :
    (∃ callback host', library.FirstCallback text host deadline callback host') ∨
      (∃ first second others host',
        library.execute firstToken text host = (first :: second :: others, host')) ∨
      ∃ host', library.execute firstToken text host = ([], host') ∧
        host'.nextJob deadline = none := by
  rcases accepts : library.execute firstToken text host
    with ⟨_ | ⟨first, _ | ⟨second, others⟩⟩, host'⟩
  · cases next : host'.nextJob deadline with
    | none => exact .inr (.inr ⟨host', rfl, next⟩)
    | some job =>
      obtain ⟨next, inTime⟩ := Host.nextJob_eq_some_iff.1 next
      exact .inl ⟨_, _, .later accepts next inTime⟩
  · exact .inl ⟨first, host', .atOnce accepts⟩
  · exact .inr (.inl ⟨first, second, others, host', rfl⟩)

end NativeLibrary

/-! ## One call -/

namespace Exchange

section OneCall

variable {σ : Type} {x : Exchange σ} {token : Token} {bridge : BridgeId}

/-- One call has a slot, and its caller waits. -/
structure IsLone (x : Exchange σ) (token : Token) (bridge : BridgeId) : Prop where
  slots : x.arena.slots = [(token, bridge)]
  waits : x.mailboxes token = .waiting

/-- No call has a slot, and one has an outcome. -/
structure IsSettled (x : Exchange σ) (token : Token) (outcome : Outcome) : Prop where
  slots : x.arena.slots = []
  holds : x.mailboxes token = .holding outcome

/-- What a callback does while one call has a slot. -/
inductive Settles (library : NativeLibrary σ) (token : Token) (callback : Callback) (s : σ) :
    Except Violation (Exchange σ) → Prop where
  | answers {outcome : Outcome} {x' : Exchange σ} (ours : callback.context = token)
    (tells : (classify library callback s).1 = .ok outcome) (settled : x'.IsSettled token outcome) :
    Settles library token callback s (.ok x')
  | silent {violation : Violation} (ours : callback.context = token)
    (tells : (classify library callback s).1 = .error violation) :
    Settles library token callback s (.error violation)
  | strange {violation : Violation} (other : callback.context ≠ token) :
    Settles library token callback s (.error violation)

/-- A callback for a call without a slot breaks the rules. -/
theorem complete_error (libraries : BridgeId → NativeLibrary σ) {callback : Callback}
    (missing : x.arena.find? callback.context = none) :
    ∃ violation, x.complete libraries callback = .error violation := by
  have entered : (x.enter callback.context).arena.find? callback.context = none := missing
  unfold complete lookUp
  rw [entered]
  exact ⟨_, rfl⟩

/-- A call that was answered is not known any more. -/
theorem IsSettled.missing {outcome : Outcome} (settled : x.IsSettled token outcome)
    (other : Token) : x.arena.find? other = none := by
  rw [Arena.find?, settled.slots]
  rfl

theorem complete_lone (libraries : BridgeId → NativeLibrary σ) (lone : x.IsLone token bridge)
    (callback : Callback) :
    Settles (libraries bridge) token callback x.native (x.complete libraries callback) := by
  by_cases ours : callback.context = token
  · subst ours
    have found : (x.enter callback.context).arena.find? callback.context = some bridge := by
      show x.arena.slots.lookup callback.context = some bridge
      rw [lone.slots, List.lookup_cons_self]
    have before : ((x.enter callback.context).retain bridge).native = x.native := rfl
    unfold complete lookUp
    simp only [found, before]
    rcases told : classify (libraries bridge) callback x.native with ⟨violation | outcome, native⟩
    · exact .silent rfl (by rw [told])
    · have taken : ((release bridge { (x.enter callback.context).retain bridge with
          native := native }).arena.retire callback.context) =
          (.ok bridge, { x.arena with slots := [] }.lower bridge) := by
        show x.arena.retire callback.context = _
        unfold Arena.retire Arena.removeSlot Arena.find?
        rw [lone.slots, List.lookup_cons_self]
        simp
      simp only [resume, taken]
      refine .answers rfl (by rw [told]) ⟨?_, ?_⟩
      · unfold send
        split <;> rfl
      · simp only [send, release, retain, enter, lone.waits, setAt_apply, if_true]
  · have missing : x.arena.find? callback.context = none := by
      rw [Arena.find?, lone.slots, List.lookup_cons, beq_false_of_ne ours]
      rfl
    obtain ⟨violation, failed⟩ := complete_error libraries missing
    rw [failed]
    exact .strange ours

end OneCall

/-! ## The first request -/

/-- What a request comes to on its own: the refusal of a nul, what its callback tells, or the passing
of its limit. -/
inductive ComesTo (library : NativeLibrary Host) (host : Host) (request : String)
    (limit : Option Nat) : Outcome → Prop where
  | refused {error : BridgeError} (refusal : toCText request = .error error) :
    ComesTo library host request limit (.error error)
  | told {text : CText} {callback : Callback} {host' : Host} {outcome : Outcome}
    (sent : toCText request = .ok text)
    (calls : library.FirstCallback text host (limit.map (host.clock + ·)) callback host')
    (ours : callback.context = firstToken)
    (tells : (classify library callback host').1 = .ok outcome) :
    ComesTo library host request limit outcome
  | expired {text : CText} {host' : Host} {ms : Nat} (sent : toCText request = .ok text)
    (accepts : library.execute firstToken text host = ([], host')) (limited : limit = some ms)
    (late : ∀ job, Host.firstJob host'.jobs = some job → host.clock + ms < job.due) :
    ComesTo library host request limit (.error (.timedOut (.ofMilliseconds ms)))

section FirstRequest

variable {libraries : BridgeId → NativeLibrary Host} {engines : BridgeId → EngineHandle}
  {bridge : BridgeId} {host host' : Host} {request : String} {text : CText} {limit : Option Nat}
  {callback : Callback} {outcome : Outcome} {x : Exchange Host}

/-- The exchange when the first request was handed over. -/
def asked (libraries : BridgeId → NativeLibrary Host) (engines : BridgeId → EngineHandle)
    (bridge : BridgeId) (text : CText) (host : Host) : Exchange Host :=
  ((initial host engines).retain bridge).handed libraries bridge text

theorem asked_native {callbacks : List Callback}
    (accepts : (libraries bridge).execute firstToken text host = (callbacks, host')) :
    (asked libraries engines bridge text host).native = host' :=
  congrArg Prod.snd accepts

theorem asked_lone :
    (asked libraries engines bridge text host).IsLone firstToken bridge where
  slots := rfl
  waits := by
    show setAt (fun _ => Mailbox.closed) firstToken .waiting firstToken = .waiting
    rw [setAt_apply, if_pos rfl]

theorem IsLone.native {token : Token} (lone : x.IsLone token bridge) (host : Host) :
    { x with native := host }.IsLone token bridge := ⟨lone.slots, lone.waits⟩

theorem collect_lone {token : Token} (lone : x.IsLone token bridge) :
    x.collect bridge token [] = .ok (.pending, .started bridge token, x) := by
  have found : x.arena.find? token = some bridge := by
    rw [Arena.find?, lone.slots, List.lookup_cons_self]
  unfold collect
  simp only [lone.waits, found, Option.isNone_some, Bool.false_eq_true, false_and, if_false]

theorem collect_settled {token : Token} (settled : x.IsSettled token outcome) :
    x.collect bridge token [] = .ok (.ready outcome, .gone, (x.close token).release bridge) := by
  unfold collect
  simp only [settled.holds]

theorem poll_first {callbacks : List Callback} (sent : toCText request = .ok text)
    (accepts : (libraries bridge).execute firstToken text host = (callbacks, host')) :
    ((initial host engines).retain bridge).poll libraries (.unstarted bridge request) =
      match completeAll libraries callbacks (asked libraries engines bridge text host) with
      | .error violation => .error violation
      | .ok x => x.collect bridge firstToken [] := by
  let first := (initial host engines).retain bridge
  have completed : completeAll libraries
      ((libraries bridge).execute first.arena.nextToken text first.native).1
      (first.handed libraries bridge text) =
        completeAll libraries callbacks (asked libraries engines bridge text host) :=
    congrArg (completeAll libraries · _) (congrArg Prod.fst accepts)
  unfold poll pollAmid
  simp only [sent, handOver_eq, first] at completed ⊢
  rw [completed]
  cases completeAll libraries callbacks (asked libraries engines bridge text host) with
  | error violation => rfl
  | ok x => rfl

/-! ## What it comes to -/

theorem execute_first (limit : Option Nat) :
    execute libraries bridge request limit (initial host engines) =
      await libraries ((initial host engines).limitOf limit) (.unstarted bridge request)
        ((initial host engines).retain bridge) := rfl

/-- Waiting goes on after one look unless that one ends it. -/
theorem await_eq (limit : Option (Duration × Nat)) (call : Call) (x : Exchange Host) :
    await libraries limit call x =
      (do
        match ← waitOnce libraries limit call x with
        | .inl (call, x) => await libraries limit call x
        | .inr result => pure result) := by
  unfold await
  rw [repeatM_eq_of_monadTail]
  unfold repeatM.body
  refine bind_congr fun looked => ?_
  cases looked with
  | inl next => rfl
  | inr result => rfl

theorem await_settled {token : Token} (settled : x.IsSettled token outcome)
    (limit : Option (Duration × Nat)) :
    await libraries limit (.started bridge token) x =
      pure (outcome, (x.close token).release bridge) := by
  have looked : x.poll libraries (.started bridge token) = x.collect bridge token [] := rfl
  rw [await_eq, waitOnce, looked, collect_settled settled]
  rfl

theorem execute_refused (libraries : BridgeId → NativeLibrary Host)
    (engines : BridgeId → EngineHandle) (bridge : BridgeId) (host : Host) (limit : Option Nat)
    {error : BridgeError} (refusal : toCText request = .error error) :
    ∃ x, execute libraries bridge request limit (initial host engines) =
      pure (.error error, x) := by
  rw [execute_first, await_eq, waitOnce]
  unfold poll pollAmid
  simp only [refusal]
  exact ⟨_, rfl⟩

/-- What is heard of a callback. -/
inductive Heard (library : NativeLibrary Host) (callback : Callback) (host : Host) :
    Awaited (Outcome × Exchange Host) → Prop where
  | outcome {outcome : Outcome} (x : Exchange Host) (ours : callback.context = firstToken)
    (tells : (classify library callback host).1 = .ok outcome) :
    Heard library callback host (pure (outcome, x))
  | breach (violation : Violation) (foul : ¬ (callback.context = firstToken ∧
      ∃ outcome, (classify library callback host).1 = .ok outcome)) :
    Heard library callback host (throw violation)

/-- A callback is heard as it settles the call. -/
theorem Settles.heard {result : Except Violation (Exchange Host)}
    {came : Awaited (Outcome × Exchange Host)}
    (settles : Settles (libraries bridge) firstToken callback host result)
    (fails : ∀ violation, result = .error violation → came = throw violation)
    (ends : ∀ x outcome, result = .ok x → x.IsSettled firstToken outcome →
      ∃ x', came = pure (outcome, x')) : Heard (libraries bridge) callback host came := by
  cases settles with
  | answers ours tells settled =>
    obtain ⟨x', came⟩ := ends _ _ rfl settled
    exact came ▸ .outcome x' ours tells
  | @silent violation ours tells => exact fails violation rfl ▸ .breach violation (by simp [tells])
  | @strange violation other => exact fails violation rfl ▸ .breach violation (by simp [other])

theorem execute_heard (engines : BridgeId → EngineHandle) (sent : toCText request = .ok text)
    (calls : (libraries bridge).FirstCallback text host (limit.map (host.clock + ·)) callback host') :
    Heard (libraries bridge) callback host'
      (execute libraries bridge request limit (initial host engines)) := by
  have lone : (asked libraries engines bridge text host).IsLone firstToken bridge := asked_lone
  rw [execute_first]
  cases calls with
  | atOnce accepts =>
    have settles := complete_lone libraries lone callback
    rw [asked_native accepts] at settles
    rw [await_eq, waitOnce, poll_first sent accepts, completeAll]
    refine settles.heard (fun violation failed => ?_) fun x outcome done settled => ?_
    · simp only [failed]
      rfl
    · simp only [done, completeAll, collect_settled settled]
      exact ⟨_, rfl⟩
  | @later job host₁ accepts next inTime =>
    have now : host₁.nextJob (((initial host engines).limitOf limit).map Prod.snd) = some job := by
      rw [Host.nextJob_eq_some_iff]
      refine ⟨next, ?_⟩
      cases limit with
      | none =>
        intro time none
        cases none
      | some ms => exact inTime
    have settles := complete_lone libraries (lone.native (host₁.finish job).2) (host₁.finish job).1
    rw [await_eq, waitOnce, poll_first sent accepts, completeAll]
    simp only [collect_lone lone, asked_native accepts, now]
    refine settles.heard (fun violation failed => ?_) fun x outcome done settled => ?_
    · rw [failed]
      rfl
    · simp only [done]
      exact ⟨_, await_settled settled _⟩

/-- An engine that makes more than one callback for its first request breaks the rules. -/
theorem execute_several (engines : BridgeId → EngineHandle) (limit : Option Nat)
    {first second : Callback} {others : List Callback} (sent : toCText request = .ok text)
    (accepts :
      (libraries bridge).execute firstToken text host = (first :: second :: others, host')) :
    ∃ violation, execute libraries bridge request limit (initial host engines) =
      throw violation := by
  have lone : (asked libraries engines bridge text host).IsLone firstToken bridge := asked_lone
  have settles := complete_lone libraries lone first
  rw [execute_first, await_eq, waitOnce, poll_first sent accepts, completeAll]
  generalize complete libraries first _ = result at settles
  cases settles with
  | answers ours tells settled =>
    obtain ⟨violation, failed⟩ := complete_error libraries (settled.missing second.context)
    simp only [completeAll, failed]
    exact ⟨violation, rfl⟩
  | silent ours tells => exact ⟨_, rfl⟩
  | strange other => exact ⟨_, rfl⟩

/-- An engine that takes its first request without a callback, and is not done with a job in time. -/
theorem execute_unanswered (engines : BridgeId → EngineHandle) (sent : toCText request = .ok text)
    (accepts : (libraries bridge).execute firstToken text host = ([], host'))
    (late : host'.nextJob (limit.map (host.clock + ·)) = none) :
    ∃ x, execute libraries bridge request limit (initial host engines) =
      match limit with
      | none => none
      | some ms => pure (.error (.timedOut (.ofMilliseconds ms)), x) := by
  have lone : (asked libraries engines bridge text host).IsLone firstToken bridge := asked_lone
  rw [execute_first, await_eq, waitOnce, poll_first sent accepts, completeAll]
  cases limit with
  | none =>
    have late : host'.nextJob (((initial host engines).limitOf none).map Prod.snd) = none := late
    simp only [collect_lone lone, asked_native accepts, late]
    exact ⟨asked libraries engines bridge text host, rfl⟩
  | some ms =>
    have late : host'.nextJob (((initial host engines).limitOf (some ms)).map Prod.snd) = none :=
      late
    simp only [collect_lone lone, asked_native accepts, late]
    exact ⟨_, rfl⟩

/-- What waiting for a request on its own comes to: its outcome, a breach of the rules, or, when
nobody ever does anything, nothing. -/
inductive Waits (library : NativeLibrary Host) (host : Host) (request : String)
    (limit : Option Nat) : Awaited (Outcome × Exchange Host) → Prop where
  | comes {outcome : Outcome} (x : Exchange Host)
    (comes : ComesTo library host request limit outcome) :
    Waits library host request limit (pure (outcome, x))
  | breach (violation : Violation) : Waits library host request limit (throw violation)
  | never {text : CText} {host' : Host} (unlimited : limit = none)
    (sent : toCText request = .ok text)
    (accepts : library.execute firstToken text host = ([], host')) (idle : host'.jobs = []) :
    Waits library host request limit none

theorem execute_waits (libraries : BridgeId → NativeLibrary Host)
    (engines : BridgeId → EngineHandle) (bridge : BridgeId) (host : Host) (request : String)
    (limit : Option Nat) :
    Waits (libraries bridge) host request limit
      (execute libraries bridge request limit (initial host engines)) := by
  cases sent : toCText request with
  | error error =>
    obtain ⟨x, refused⟩ := execute_refused libraries engines bridge host limit sent
    exact refused ▸ .comes x (.refused sent)
  | ok text =>
    rcases NativeLibrary.FirstCallback.or_not (libraries bridge) text host
        (limit.map (host.clock + ·)) with
      ⟨callback, host', calls⟩ | ⟨first, second, others, host', accepts⟩ | ⟨host', accepts, late⟩
    · have heard := execute_heard engines sent calls
      generalize execute libraries bridge request limit (initial host engines) = result at heard ⊢
      cases heard with
      | outcome x ours tells => exact .comes x (.told sent calls ours tells)
      | breach violation foul => exact .breach violation
    · obtain ⟨violation, failed⟩ := execute_several engines limit sent accepts
      exact failed ▸ .breach violation
    · obtain ⟨x, ended⟩ := execute_unanswered engines sent accepts late
      rw [ended]
      have late := Host.nextJob_eq_none_iff.1 late
      cases limit with
      | none =>
        refine .never rfl sent accepts (Host.firstJob_eq_none_iff.1 ?_)
        exact Option.eq_none_iff_forall_ne_some.2 fun job first => by simpa using late job first
      | some ms =>
        exact .comes x (.expired sent accepts rfl fun job first => by simpa using late job first)

/-- **What a request comes to on its own.** -/
theorem execute_ok_iff (libraries : BridgeId → NativeLibrary Host)
    (engines : BridgeId → EngineHandle) (bridge : BridgeId) (host : Host) (request : String)
    (limit : Option Nat) (outcome : Outcome) :
    (∃ x, execute libraries bridge request limit (initial host engines) = pure (outcome, x)) ↔
      ComesTo (libraries bridge) host request limit outcome := by
  constructor
  · rintro ⟨x, came⟩
    have waits := execute_waits libraries engines bridge host request limit
    rw [came] at waits
    generalize is : (pure (outcome, x) : Awaited (Outcome × Exchange Host)) = result at waits
    cases waits with
    | comes x' comes =>
      cases is
      exact comes
    | breach violation => cases is
    | never unlimited sent accepts idle => cases is
  · intro comes
    cases comes with
    | refused refusal => exact execute_refused _ _ _ _ _ refusal
    | told sent calls ours tells =>
      have heard := execute_heard engines sent calls
      generalize execute libraries bridge request limit (initial host engines) = result at heard
      cases heard with
      | outcome x ours tells' => exact ⟨x, by rw [Except.ok.inj (tells.symm.trans tells')]⟩
      | breach violation foul => exact absurd ⟨ours, _, tells⟩ foul
    | expired sent accepts limited late =>
      subst limited
      exact execute_unanswered _ sent accepts
        (Host.nextJob_eq_none_iff.2 fun job first => ⟨_, rfl, late job first⟩)

/-- **Waiting for a request never ends** exactly if it has no limit, and the engine takes it without
a callback and has nothing to do. -/
theorem execute_eq_none_iff (libraries : BridgeId → NativeLibrary Host)
    (engines : BridgeId → EngineHandle) (bridge : BridgeId) (host : Host) (request : String)
    (limit : Option Nat) :
    (execute libraries bridge request limit (initial host engines)).run = none ↔
      limit = none ∧ ∃ text host', toCText request = .ok text ∧
        (libraries bridge).execute firstToken text host = ([], host') ∧ host'.jobs = [] := by
  constructor
  · intro never
    have waits := execute_waits libraries engines bridge host request limit
    generalize execute libraries bridge request limit (initial host engines) = result
      at waits never
    cases waits with
    | comes x comes => cases never
    | breach violation => cases never
    | never unlimited sent accepts idle => exact ⟨unlimited, _, _, sent, accepts, idle⟩
  · rintro ⟨rfl, text, host', sent, accepts, idle⟩
    have late : host'.nextJob ((none : Option Nat).map (host.clock + ·)) = none := by
      unfold Host.nextJob
      rw [idle]
      rfl
    obtain ⟨x, ended⟩ := execute_unanswered engines sent accepts late
    rw [ended]
    rfl

end FirstRequest

end Exchange

/-! ## The engine's own library -/

/-- What a request comes to on its own, within a limit in milliseconds if there is one. -/
def Engine.answerWithin (engine : Engine) (limit : Option Nat) (request : String) : Outcome :=
  match toCText request with
  | .error refusal => .error refusal
  | .ok _ =>
    match limit with
    | none => engine.outcome request
    | some ms =>
      if ms < engine.milliseconds request then .error (.timedOut (.ofMilliseconds ms))
      else engine.outcome request

namespace Host

/-- When all workers are free, one of them is free at once. -/
theorem firstFree_replicate (count : Nat) : (firstFree (List.replicate count 0)).2 = 0 := by
  induction count with
  | zero => rfl
  | succ count ih =>
    cases count with
    | zero => rfl
    | succ count =>
      rw [List.replicate_succ, List.replicate_succ]
      rw [List.replicate_succ] at ih
      unfold firstFree
      simp [ih]

/-- The only job of an engine is the one that is done first. -/
theorem submit_start (engine : Engine) (token : Token) (request : String) :
    ∃ worker, ((start engine).submit token request).jobs =
        [⟨token, request, worker, engine.milliseconds request⟩] ∧
      ((start engine).submit token request).engine = engine := by
  refine ⟨workerThread (firstFree (List.replicate engine.slots 0)).1, ?_, rfl⟩
  show [(⟨token, request, _, max 0 (firstFree (List.replicate engine.slots 0)).2 +
    engine.milliseconds request⟩ : Job)] = _
  rw [firstFree_replicate, Nat.max_self, Nat.zero_add]
  rfl

/-- A job that is finished tells what its request comes to. -/
theorem finish_told (job : Job) (host : Host) :
    (host.finish job).1.context = job.context ∧ (host.finish job).1.IsProper ∧
      (host.finish job).1.told (host.finish job).2.side = host.engine.outcome job.request := by
  obtain ⟨-, context, proper, told, -⟩ := finishOn_told job.worker job host
  exact ⟨context, proper, told⟩

/-- The callback of a job that is finished is told what its request comes to. -/
theorem classify_finish (job : Job) (host : Host) :
    (Exchange.classify library (host.finish job).1 (host.finish job).2).1 =
      .ok (host.engine.outcome job.request) := by
  obtain ⟨-, proper, told⟩ := finish_told job host
  obtain ⟨buffer, host', read, -⟩ := readReport_told proper (host.finish job).2
  rw [Exchange.classify_eq, read, told]

end Host

namespace Exchange

/-- **A request on its own comes to one of three things** when the engine is at work: the refusal of
a nul, the passing of its limit, or what the engine makes of it. -/
theorem execute_alone (engine : Engine) (engines : BridgeId → EngineHandle) (bridge : BridgeId)
    (request : String) (limit : Option Nat) :
    ∃ x, execute (fun _ => Host.library) bridge request limit (initial (Host.start engine) engines)
      = pure (engine.answerWithin limit request, x) := by
  rw [execute_ok_iff (fun _ => Host.library)]
  unfold Engine.answerWithin
  cases sent : toCText request with
  | error refusal => exact .refused sent
  | ok text =>
    obtain ⟨worker, jobs, works⟩ := Host.submit_start engine firstToken request
    have accepts := Host.execute_eq sent firstToken (Host.start engine)
    have first : Host.firstJob ((Host.start engine).submit firstToken request).jobs
        = some ⟨firstToken, request, worker, engine.milliseconds request⟩ := by
      rw [jobs]
      rfl
    have tells := Host.classify_finish ⟨firstToken, request, worker, engine.milliseconds request⟩
      ((Host.start engine).submit firstToken request)
    rw [works] at tells
    have comes (inTime : ∀ ms ∈ limit, engine.milliseconds request ≤ ms) :
        ComesTo Host.library (Host.start engine) request limit (engine.outcome request) := by
      refine .told sent (.later accepts first ?_) (Host.finish_told _ _).1 tells
      cases limit with
      | none => nofun
      | some ms => simpa [Host.start] using inTime
    cases limit with
    | none => exact comes nofun
    | some ms =>
      by_cases late : ms < engine.milliseconds request
      · simp only [if_pos late]
        refine .expired sent accepts rfl fun job is => ?_
        rw [first] at is
        cases is
        simpa [Host.start] using late
      · simp only [if_neg late]
        exact comes (by simpa using late)

end Exchange

end EngineBridge
