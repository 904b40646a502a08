import EngineBridge.Calls.Service
import EngineBridge.Proofs.Calls.Deferral
import EngineBridge.Proofs.Calls.Delivery
import EngineBridge.Proofs.Native.Host
/-!
# What a service owes

`Serving` is what every turn of a service keeps.  A token's outcome is on its way as a job, as a
callback that a thread is about to enter or is in the middle of, or as a delivery, and at each
of these it is `Owed` to whoever holds the token.  A detail lies in its thread's place only
while the thread is at the call that left it there, since `threads` has no thread twice.
-/

namespace EngineBridge

/-- What the caller of a request is to get: the refusal of a request with a nul, or what the
engine makes of the request. -/
def Engine.answer (engine : Engine) (request : String) : Outcome :=
  match toCText request with
  | .error refusal => .error refusal
  | .ok _ => engine.outcome request

theorem Engine.answer_eq {request : String} (noNul : '\x00' ∉ request.toList) (engine : Engine) :
    engine.answer request = engine.outcome request := by
  obtain ⟨sent, is⟩ := toCText_ok noNul
  rw [Engine.answer, is]

/-- What a callback will send from a stage on, unless it has. -/
def Stage.told? (callback : Callback) (side : EngineSide) : Stage → Option Outcome
  | looking => some (callback.told side)
  | reading _ => some (callback.told side)
  | freeing _ _ outcome => some outcome
  | leaving _ outcome => some outcome
  | retiring outcome => some outcome
  | lowering _ outcome => some outcome
  | sending _ outcome => some outcome
  | closing _ => none
  | returning => none

/-- A reference engine's library answers later. -/
theorem Host.library_defers : Host.library.Defers := by
  intro request sent token host is
  rw [Host.execute_eq is]

theorem Service.libraries_defer (bridge : BridgeId) : (Service.libraries bridge).Defers :=
  Host.library_defers

namespace Exchange

variable {x x' : Exchange Host}

/-- **A stage of a callback** acts on its own thread only, tells on what it was told, and sends
nothing else. -/
theorem advance_told {callback : Callback} {stage : Stage} {next : Option Stage}
    (proper : callback.IsProper)
    (done : x.advance Service.libraries callback stage = .ok (next, x')) :
    Host.Steady callback.thread x.native x'.native ∧
      (∀ outcome, next.bind (Stage.told? callback x'.native.side) = some outcome →
        stage.told? callback x.native.side = some outcome) ∧
      ∀ delivery ∈ x'.deliveries, delivery ∈ x.deliveries ∨
        delivery.token = callback.context ∧
          stage.told? callback x.native.side = some delivery.outcome := by
  cases advance_ok done with
  | looks found => exact ⟨.refl _ _, fun _ is => is, fun _ => .inl⟩
  | reads read =>
    obtain ⟨buffer, host, read', steady⟩ := Host.readReport_told proper x.native
    have same := read'.symm.trans read
    simp only [Prod.mk.injEq, Except.ok.injEq] at same
    obtain ⟨⟨rfl, rfl⟩, rfl⟩ := same
    exact ⟨steady, fun _ is => is, fun _ => .inl⟩
  | frees bridge buffer outcome =>
    exact ⟨Host.releaseAny_steady _ _ _, fun _ is => is, fun _ => .inl⟩
  | leaves bridge outcome => exact ⟨.refl _ _, fun _ is => is, fun _ => .inl⟩
  | retires outcome taken =>
    rw [(takeSlot_ok taken).2]
    exact ⟨.refl _ _, fun _ is => is, fun _ => .inl⟩
  | lowers bridge outcome => exact ⟨.refl _ _, fun _ is => is, fun _ => .inl⟩
  | sends bridge outcome =>
    rw [send_native, send_deliveries]
    refine ⟨.refl _ _, fun _ is => by simp [Stage.told?] at is, ?_⟩
    intro delivery member
    rcases List.mem_cons.1 member with rfl | old
    · exact .inr ⟨rfl, rfl⟩
    · exact .inl old
  | closes bridge => exact ⟨.refl _ _, fun _ is => by simp [Stage.told?] at is, fun _ => .inl⟩
  | returns => exact ⟨.refl _ _, fun _ is => by simp at is, fun _ => .inl⟩

end Exchange

namespace World

variable {engine : Engine} {w w' : World Host}

/-- An outcome belongs to a token: the token was issued, and the outcome is that of the request
of every future that has it. -/
def Owed (engine : Engine) (w : World Host) (token : Nat) (outcome : Outcome) : Prop :=
  token < w.exchange.arena.nextToken ∧
    ∀ future ∈ w.futures, ∀ bridge, future.call = .started bridge token →
      engine.answer future.request = outcome

theorem Owed.follows {token : Nat} {outcome : Outcome} (h : Owed engine w token outcome)
    (follows : Follows w w') : Owed engine w' token outcome := by
  refine ⟨Nat.lt_of_lt_of_le h.1 follows.next, ?_⟩
  intro future member bridge is
  rcases follows.started future member bridge token is with ⟨old, before, same, was⟩ | new
  · rw [← same]
    exact h.2 old before bridge was
  · exact absurd h.1 (Nat.not_lt.2 new)

/-- A task tells the truth: a callback what is owed to its token, a codec call what its call
asks for. -/
def IsHonest (engine : Engine) (w : World Host) (task : Task) : Prop :=
  match task.work with
  | .callback callback stage =>
    callback.thread = task.thread ∧ callback.IsProper ∧
      ∀ outcome, stage.told? callback w.exchange.native.side = some outcome →
        w.Owed engine callback.context outcome
  | .codec call stage => call.Answers (call.told task.thread w.exchange.native.side stage)

theorem IsHonest.follows {task : Task} (h : IsHonest engine w task) (follows : Follows w w')
    (same : w'.exchange.native.side.lastError task.thread
      = w.exchange.native.side.lastError task.thread) : IsHonest engine w' task := by
  obtain ⟨thread, bridge, work⟩ := task
  cases work with
  | callback callback stage =>
    obtain ⟨own, proper, told⟩ := h
    refine ⟨own, proper, fun outcome is => (told outcome ?_).follows follows⟩
    have report : callback.told w'.exchange.native.side = callback.told w.exchange.native.side := by
      rw [Callback.told, own, same, ← own]
      rfl
    cases stage <;> simp only [Stage.told?, report] at is ⊢ <;> exact is
  | codec call stage =>
    cases stage with
    | answered status out =>
      simp only [IsHonest, CodecCall.told] at h ⊢
      rw [same]
      exact h
    | freeing buffers result => exact h

end World

/-! ## The invariant -/

/-- What holds of a world whose engines answer later. -/
structure World.Based {σ : Type} (engines : BridgeId → EngineHandle) (w : World σ) : Prop where
  sound : w.Sound engines
  attended : w.Attended
  covered : w.Covered
  /-- A future that is not started yet will ask for its own request. -/
  own : ∀ future ∈ w.futures, ∀ bridge request,
    future.call = .unstarted bridge request → request = future.request

/-- What holds of a service, whoever has done what. -/
structure Serving (engine : Engine) (engines : BridgeId → EngineHandle) (s : Service) : Prop where
  based : s.world.Based engines
  same : s.host.engine = engine
  jobs : ∀ job ∈ s.host.jobs, s.world.Owed engine job.context (engine.outcome job.request)
  ready : ∀ callback ∈ s.ready, callback.IsProper ∧
    s.world.Owed engine callback.context (callback.told s.host.side)
  tasks : ∀ task ∈ s.world.tasks, s.world.IsHonest engine task
  sent : ∀ delivery ∈ s.world.exchange.deliveries,
    s.world.Owed engine delivery.token delivery.outcome
  /-- A thread is in the middle of one engine call. -/
  threads : (s.ready.map Callback.thread ++ s.world.tasks.map Task.thread).Nodup
  /-- A request that waits for its callback is worked on, or its callback is about to be entered. -/
  taken : (s.world.exchange.requests.map Request.token).Perm
    (s.host.jobs.map Job.context ++ s.ready.map Callback.context)

namespace World

variable {σ : Type} {libraries : BridgeId → NativeLibrary σ} {engines : BridgeId → EngineHandle}
  {w w' : World σ}

theorem initial_based (native : σ) (engines : BridgeId → EngineHandle) :
    Based engines (initial native engines) where
  sound := initial_sound native engines
  attended := initial_attended native engines
  covered := initial_covered native engines
  own _ member := absurd member List.not_mem_nil

theorem Based.own_set (h : Based engines w) {place : Nat} {future : Future} {call : Call}
    (at_ : w.futures[place]? = some future)
    (kept : call = future.call ∨ ∀ bridge request, call ≠ .unstarted bridge request) :
    ∀ found ∈ w.futures.set place { future with call := call }, ∀ bridge request,
      found.call = .unstarted bridge request → request = found.request := by
  intro found member bridge request is
  rcases List.mem_or_eq_of_mem_set member with old | rfl
  · exact h.own found old bridge request is
  · rcases kept with rfl | never
    · exact h.own future (List.mem_of_getElem? at_) bridge request is
    · exact absurd is (never bridge request)

theorem step_own (defers : ∀ bridge, (libraries bridge).Defers) {action : Action σ}
    {answer : Answer} (h : Based engines w) (done : w.step libraries action = .ok (answer, w')) :
    ∀ future ∈ w'.futures, ∀ bridge request,
      future.call = .unstarted bridge request → request = future.request := by
  cases step_ok done with
  | start able =>
    intro future member bridge request is
    rcases List.mem_append.1 member with old | new
    · exact h.own future old bridge request is
    · obtain rfl := List.mem_singleton.1 new
      exact (Call.unstarted.inj is).2.symm
  | poll at_ polled =>
    refine h.own_set at_ ?_
    have polls := Exchange.pollWithin_polls defers polled
    generalize Future.call _ = was at polls ⊢
    cases polls with
    | collects kept calm =>
      rcases kept with rfl | rfl
      · exact .inr fun _ _ is => by simp at is
      · exact .inl rfl
    | hands sent kept calm =>
      rcases kept with rfl | rfl <;> exact .inr fun _ _ is => by simp at is
  | drop at_ => exact h.own_set at_ (.inr fun _ _ is => by simp at is)
  | _ => exact h.own

/-- What holds of a world whose engines answer later, holds after every step. -/
theorem step_based (defers : ∀ bridge, (libraries bridge).Defers) {action : Action σ}
    {answer : Answer} (h : Based engines w) (staged : action.isStaged = true)
    (done : w.step libraries action = .ok (answer, w')) : Based engines w' where
  sound := step_sound h.sound done
  attended := by
    rw [← step_deferred defers staged] at done
    exact step_attended h.attended h.sound staged done
  covered := step_covered defers h.covered staged done
  own := step_own defers h done

theorem Sound.started_lt (h : Sound engines w) {future : Future} (member : future ∈ w.futures)
    {bridge : BridgeId} {token : Nat} (is : future.call = .started bridge token) :
    token < w.exchange.arena.nextToken := by
  have receiver : w.HasReceiver token := ⟨future, member, by rw [is]; rfl⟩
  exact (h.issued_of_awaited ((h.hasReceiver_iff token).2 receiver)).2

end World

namespace Serving

variable {engine : Engine} {engines : BridgeId → EngineHandle} {s : Service} {w' : World Host}

theorem step_based_follows (h : Serving engine engines s) {action : Action Host} {answer : Answer}
    (staged : action.isStaged = true)
    (done : s.world.step Service.libraries action = .ok (answer, w')) :
    w'.Based engines ∧ s.world.Follows w' :=
  ⟨World.step_based Service.libraries_defer h.based staged done,
    World.step_follows Service.libraries_defer staged done⟩

/-! ## Steps that leave the engine alone -/

/-- Nothing has happened to the engine, its requests and their outcomes. -/
theorem of_native_eq (h : Serving engine engines s) (based : w'.Based engines)
    (follows : s.world.Follows w') (native : w'.exchange.native = s.host)
    (requests : w'.exchange.requests = s.world.exchange.requests)
    (deliveries : w'.exchange.deliveries = s.world.exchange.deliveries)
    (tasks : w'.tasks = s.world.tasks) : Serving engine engines ⟨w', s.ready⟩ where
  based := based
  same := by
    rw [Service.host, native]
    exact h.same
  jobs job member := by
    rw [Service.host, native] at member
    exact (h.jobs job member).follows follows
  ready callback member := by
    rw [Service.host, native]
    exact (h.ready callback member).imp_right fun owed => owed.follows follows
  tasks task member := by
    rw [tasks] at member
    exact (h.tasks task member).follows follows (by rw [native]; rfl)
  sent delivery member := by
    rw [deliveries] at member
    exact (h.sent delivery member).follows follows
  threads := by
    rw [tasks]
    exact h.threads
  taken := by
    rw [Service.host, native, requests]
    exact h.taken

/-- A request is handed over: its job owes its outcome to the token that was issued for it. -/
theorem of_handed (h : Serving engine engines s) (based : w'.Based engines)
    (follows : s.world.Follows w') {place : Nat} {future : Future} {bridge : BridgeId}
    {request : String} {text : CText} {call : Call}
    (at_ : s.world.futures[place]? = some future) (is : future.call = .unstarted bridge request)
    (sent : toCText request = .ok text)
    (calm : (s.world.exchange.handed Service.libraries bridge text).Calm w'.exchange)
    (futures : w'.futures = s.world.futures.set place { future with call := call })
    (tasks : w'.tasks = s.world.tasks) : Serving engine engines ⟨w', s.ready⟩ := by
  have native : w'.exchange.native = s.host.submit s.world.exchange.arena.nextToken request := by
    rw [calm.native]
    exact congrArg Prod.snd (Host.execute_eq sent _ _)
  obtain ⟨worker, due, jobs⟩ := Host.submit_jobs s.world.exchange.arena.nextToken request s.host
  have issued : w'.exchange.arena.nextToken = s.world.exchange.arena.nextToken + 1 :=
    congrArg Arena.nextToken calm.arena
  refine ⟨based, ?_, ?_, ?_, ?_, ?_, ?_, ?_⟩
  · rw [Service.host, native]
    exact h.same
  · intro job member
    rw [Service.host, native, jobs] at member
    rcases List.mem_append.1 member with old | new
    · exact (h.jobs job old).follows follows
    · obtain rfl := List.mem_singleton.1 new
      refine ⟨by rw [issued]; exact Nat.lt_succ_self _, ?_⟩
      intro found present bridge' started
      rw [futures] at present
      rcases List.mem_or_eq_of_mem_set present with old | rfl
      · -- tokens that were there before are smaller
        exact absurd (h.based.sound.started_lt old started) (Nat.lt_irrefl _)
      · have own := h.based.own future (List.mem_of_getElem? at_) bridge request is
        simp only [Engine.answer, ← own, sent]
  · intro callback member
    rw [Service.host, native]
    exact (h.ready callback member).imp_right fun owed => owed.follows follows
  · intro task member
    rw [tasks] at member
    exact (h.tasks task member).follows follows (by rw [native]; rfl)
  · intro delivery member
    rw [calm.deliveries] at member
    exact (h.sent delivery member).follows follows
  · rw [tasks]
    exact h.threads
  · rw [Service.host, native, jobs, calm.requests, List.map_append, List.append_assoc]
    exact (h.taken.cons _).trans List.perm_middle.symm

/-! ## Steps of threads -/

theorem isFree_iff {thread : ThreadId} : s.isFree thread = true ↔
    thread ∉ s.ready.map Callback.thread ∧ thread ∉ s.world.tasks.map Task.thread := by
  have ready : (s.ready.all fun callback => callback.thread ≠ thread) = true ↔
      thread ∉ s.ready.map Callback.thread := by
    simp [List.mem_map]
  have tasks : s.world.isIdle thread = true ↔ thread ∉ s.world.tasks.map Task.thread := by
    simp [World.isIdle, List.mem_map]
  rw [Service.isFree, Bool.and_eq_true, ready, tasks, and_comm]

/-- A thread has acted, and what it does next is honest: everybody else goes on as before. -/
theorem of_steady (h : Serving engine engines s) (now : Option Task) (based : w'.Based engines)
    (follows : s.world.Follows w') {thread : ThreadId} {rest : List Task}
    (steady : Host.Steady thread s.host w'.exchange.native)
    (requests : w'.exchange.requests = s.world.exchange.requests)
    (before : ∀ task ∈ rest, task ∈ s.world.tasks)
    (tasks : w'.tasks.Perm (now.toList ++ rest))
    (threads : (s.ready.map Callback.thread ++ thread :: rest.map Task.thread).Nodup)
    (own : ∀ task ∈ now, task.thread = thread ∧ w'.IsHonest engine task)
    (sent : ∀ delivery ∈ w'.exchange.deliveries, w'.Owed engine delivery.token delivery.outcome) :
    Serving engine engines ⟨w', s.ready⟩ := by
  -- nobody else is on the acting thread, so what others are about to tell stays
  have apart := List.perm_middle.nodup_iff.1 threads
  rw [List.nodup_cons, List.mem_append, not_or] at apart
  obtain ⟨⟨noReady, noTask⟩, distinct⟩ := apart
  refine ⟨based, ?_, ?_, ?_, ?_, sent, ?_, ?_⟩
  · exact steady.engine.trans h.same
  · intro job member
    rw [Service.host, steady.jobs] at member
    exact (h.jobs job member).follows follows
  · intro callback member
    have other : callback.thread ≠ thread := fun is => noReady (is ▸ List.mem_map_of_mem member)
    rw [Service.host, steady.told other]
    exact (h.ready callback member).imp_right fun owed => owed.follows follows
  · intro task member
    rcases List.mem_append.1 (tasks.mem_iff.1 member) with new | old
    · exact (own task (Option.mem_toList.1 new)).2
    · have other : task.thread ≠ thread := fun is => noTask (is ▸ List.mem_map_of_mem old)
      exact (h.tasks task (before task old)).follows follows (steady.others _ other)
  · have perm := (tasks.map Task.thread).append_left (s.ready.map Callback.thread)
    refine perm.nodup_iff.2 ?_
    rw [List.map_append]
    cases now with
    | none => exact distinct
    | some task =>
      rw [Option.toList_some, List.map_singleton, (own task rfl).1]
      exact threads
  · rw [Service.host, steady.jobs, requests]
    exact h.taken

/-- The threads of a service, with that of one task in front of the others. -/
theorem threads_at (h : Serving engine engines s) {place : Nat} {task : Task}
    (at_ : s.world.tasks[place]? = some task) :
    (s.ready.map Callback.thread
      ++ task.thread :: (s.world.tasks.eraseIdx place).map Task.thread).Nodup := by
  have perm := ((perm_of_getElem? at_).map Task.thread).append_left (s.ready.map Callback.thread)
  exact perm.nodup_iff.1 h.threads

theorem call (h : Serving engine engines s) {thread : ThreadId} {bridge : BridgeId}
    {codec : CodecCall} (free : s.isFree thread = true) {answer : Answer}
    (done : s.world.step Service.libraries (.call thread bridge codec) = .ok (answer, w')) :
    Serving engine engines ⟨w', s.ready⟩ := by
  obtain ⟨based, follows⟩ := h.step_based_follows rfl done
  obtain ⟨notReady, notBusy⟩ := isFree_iff.1 free
  cases World.step_ok done with
  | call idle able =>
    obtain ⟨honest, steady⟩ := Host.beginCodec_told thread codec s.host
    refine h.of_steady (some _) based follows steady rfl (fun _ member => member) (.refl _) ?_
      ?_ fun delivery member => (h.sent delivery member).follows follows
    · refine List.perm_middle.nodup_iff.2 (List.nodup_cons.2 ⟨?_, h.threads⟩)
      rw [List.mem_append, not_or]
      exact ⟨notReady, notBusy⟩
    · rintro task ⟨⟩
      exact ⟨rfl, honest⟩

theorem advance (h : Serving engine engines s) {place : Nat} {answer : Answer}
    (done : s.world.step Service.libraries (.advance place) = .ok (answer, w')) :
    Serving engine engines ⟨w', s.ready⟩ := by
  obtain ⟨based, follows⟩ := h.step_based_follows rfl done
  have others {place : Nat} : ∀ task ∈ s.world.tasks.eraseIdx place, task ∈ s.world.tasks :=
    fun _ => List.mem_of_mem_eraseIdx
  cases World.step_ok done with
  | returns at_ advanced =>
    obtain ⟨own, proper, told⟩ := h.tasks _ (List.mem_of_getElem? at_)
    obtain ⟨steady, -, sends⟩ := Exchange.advance_told proper advanced
    have quiet := Exchange.advance_quiet advanced
    rw [own] at steady
    refine h.of_steady none based follows steady quiet.2.1 others (.refl _) (h.threads_at at_)
      (fun _ is => by cases is) fun delivery member => ?_
    rcases sends delivery member with old | ⟨same, is⟩
    · exact (h.sent delivery old).follows follows
    · rw [same]
      exact (told _ is).follows follows
  | advances at_ advanced =>
    obtain ⟨own, proper, told⟩ := h.tasks _ (List.mem_of_getElem? at_)
    obtain ⟨steady, tells, sends⟩ := Exchange.advance_told proper advanced
    have quiet := Exchange.advance_quiet advanced
    rw [own] at steady
    refine h.of_steady (some _) based follows steady quiet.2.1 others (set_perm_of_getElem? at_ _)
      (h.threads_at at_) ?_ fun delivery member => ?_
    · rintro task ⟨⟩
      exact ⟨rfl, own, proper, fun outcome is => (told outcome (tells outcome is)).follows follows⟩
    · rcases sends delivery member with old | ⟨same, is⟩
      · exact (h.sent delivery old).follows follows
      · rw [same]
        exact (told _ is).follows follows
  | answers at_ =>
    exact h.of_steady none based follows (.refl _ _) rfl others (.refl _) (h.threads_at at_)
      (fun _ is => by cases is) fun delivery member => (h.sent delivery member).follows follows
  | @continues _ thread _ codec stage at_ more =>
    obtain ⟨same, steady⟩ := Host.advanceCodec_told thread codec stage s.host
    have honest := h.tasks _ (List.mem_of_getElem? at_)
    refine h.of_steady (some _) based follows steady rfl others (set_perm_of_getElem? at_ _)
      (h.threads_at at_) ?_ fun delivery member => (h.sent delivery member).follows follows
    rintro task ⟨⟩
    exact ⟨rfl, (congrArg codec.Answers same).mpr honest⟩

/-! ## Steps of callers -/

theorem poll (h : Serving engine engines s) {place : Nat} {passed : Bool} {answer : Answer}
    (done : s.world.step Service.libraries (.poll place passed) = .ok (answer, w')) :
    Serving engine engines ⟨w', s.ready⟩ := by
  obtain ⟨based, follows⟩ := h.step_based_follows rfl done
  cases World.step_ok done with
  | poll at_ polled =>
    have polls := Exchange.pollWithin_polls Service.libraries_defer polled
    generalize is : Future.call _ = was at polls
    cases polls with
    | collects kept calm =>
      exact h.of_native_eq based follows calm.native calm.requests calm.deliveries rfl
    | hands sent kept calm => exact h.of_handed based follows at_ is sent calm rfl rfl

/-- What a caller or a thread does is an action of the world. -/
theorem act_ok {action : Action Host} {answer : Answer} {s' : Service}
    (done : s.act action = .ok (answer, s')) :
    action.isServed = true ∧ (action.thread?.all fun thread => s.isFree thread) = true ∧
      ∃ w, s.world.step Service.libraries action = .ok (answer, w) ∧ s' = ⟨w, s.ready⟩ := by
  unfold Service.act Service.after at done
  split at done
  · rename_i able
    split at done
    · simp at done
    · rename_i w stepped
      cases done
      exact ⟨able.1, able.2, w, stepped, rfl⟩
  · simp at done

/-- **What a caller or a thread does keeps the invariant.** -/
theorem act (h : Serving engine engines s) {action : Action Host} {answer : Answer} {s' : Service}
    (done : s.act action = .ok (answer, s')) : Serving engine engines s' := by
  obtain ⟨served, free, w, stepped, rfl⟩ := act_ok done
  cases action with
  | poll place passed => exact h.poll stepped
  | advance place => exact h.advance stepped
  | call thread bridge codec => exact h.call (by simpa [Action.thread?] using free) stepped
  | complete callback => simp [Action.isServed] at served
  | resume token outcome => simp [Action.isServed] at served
  | work native => simp [Action.isServed] at served
  | enter bridge callback native => simp [Action.isServed] at served
  | drop place =>
    obtain ⟨based, follows⟩ := h.step_based_follows rfl stepped
    cases World.step_ok stepped with
    | @drop _ future at_ =>
      have calm := Exchange.drop_calm future.call s.world.exchange
      exact h.of_native_eq based follows calm.native calm.requests calm.deliveries rfl
  | _ =>
    obtain ⟨based, follows⟩ := h.step_based_follows rfl stepped
    cases World.step_ok stepped
    exact h.of_native_eq based follows rfl rfl rfl rfl

/-! ## Steps of the engine -/

/-- A job is finished: what it owed is what its callback tells. -/
theorem of_finishOn (h : Serving engine engines s) {thread : ThreadId} {job : Job} {callback : Callback}
    {host : Host} (free : s.isFree thread = true) (member : job ∈ s.host.jobs)
    (finished : s.host.finishOn thread job = (callback, host)) :
    Serving engine engines
      ⟨{ s.world with exchange := { s.world.exchange with native := host } },
        callback :: s.ready⟩ := by
  obtain ⟨own, context, proper, told, same, jobs, others⟩ := Host.finishOn_told thread job s.host
  rw [finished] at own context proper told same jobs others
  dsimp only at own context proper told same jobs others
  have stepped : s.world.step Service.libraries (.work host) = .ok (.done, _) := rfl
  obtain ⟨based, follows⟩ := h.step_based_follows rfl stepped
  obtain ⟨notReady, notBusy⟩ := isFree_iff.1 free
  refine ⟨based, same.trans h.same, ?_, ?_, ?_, ?_, ?_, ?_⟩
  · intro other found
    have old : other ∈ s.host.jobs := List.mem_of_mem_erase (jobs ▸ found)
    exact (h.jobs other old).follows follows
  · intro report found
    rcases List.mem_cons.1 found with rfl | old
    · refine ⟨proper, ?_⟩
      rw [context]
      have due : report.told host.side = engine.outcome job.request := by rw [told, h.same]
      exact (congrArg _ due).mpr ((h.jobs job member).follows follows)
    · have other : report.thread ≠ thread := fun is => notReady (is ▸ List.mem_map_of_mem old)
      have still : report.told host.side = report.told s.host.side := by
        rw [Callback.told, others _ other]
        rfl
      refine (h.ready report old).imp_right ?_
      intro owed
      rw [← still] at owed
      exact owed.follows follows
  · intro task found
    have other : task.thread ≠ thread := fun is => notBusy (is ▸ List.mem_map_of_mem found)
    exact (h.tasks task found).follows follows (others _ other)
  · intro delivery found
    exact (h.sent delivery found).follows follows
  · rw [List.map_cons, own, List.cons_append, List.nodup_cons, List.mem_append, not_or]
    exact ⟨⟨notReady, notBusy⟩, h.threads⟩
  · have erased := ((List.perm_cons_erase member).map Job.context).append_right
      (s.ready.map Callback.context)
    rw [← jobs, List.map_cons, ← context] at erased
    exact (h.taken.trans erased).trans List.perm_middle.symm

theorem finish (h : Serving engine engines s) {thread : ThreadId} {place : Nat} {answer : Answer}
    {s' : Service} (done : s.finish thread place = .ok (answer, s')) :
    Serving engine engines s' := by
  unfold Service.finish at done
  split at done
  · simp at done
  · rename_i job at_
    split at done
    · rename_i free
      simp only [Service.after, World.step, Except.ok.injEq, Prod.mk.injEq] at done
      obtain ⟨-, rfl⟩ := done
      exact h.of_finishOn free (List.mem_of_getElem? at_) rfl
    · simp at done

/-- The requests that wait for their callbacks have tokens of their own. -/
theorem requests_nodup (h : Serving engine engines s) :
    (s.world.exchange.requests.map Request.token).Nodup := by
  have subperm : s.world.exchange.awaited.Subperm s.world.exchange.arena.slots :=
    List.subperm_ext_iff.2 fun slot _ => Nat.le_trans (Nat.le_add_right _ _)
      (h.based.attended.keeps slot)
  have tokens : s.world.exchange.requests.map Request.token
      = s.world.exchange.awaited.map Prod.fst := by
    simp [Exchange.awaited]
  rw [tokens, List.nodup_iff_count]
  intro token
  have counted := subperm.countP_le fun slot => slot.1 == token
  have once := h.based.sound.once token
  have slots : s.world.exchange.tokens.count token
      = s.world.exchange.arena.slots.countP fun slot => slot.1 == token := List.countP_map
  have held : (s.world.exchange.awaited.map Prod.fst).count token
      = s.world.exchange.awaited.countP fun slot => slot.1 == token := List.countP_map
  omega

/-- A callback is entered: it goes on telling what it told. -/
theorem of_enter (h : Serving engine engines s) {place : Nat} {callback : Callback}
    {bridge : BridgeId} {answer : Answer} (at_ : s.ready[place]? = some callback)
    (done : s.world.step Service.libraries (.enter bridge callback s.host) = .ok (answer, w')) :
    Serving engine engines ⟨w', s.ready.eraseIdx place⟩ := by
  obtain ⟨based, follows⟩ := h.step_based_follows rfl done
  have perm := perm_of_getElem? at_
  obtain ⟨proper, owed⟩ := h.ready callback (List.mem_of_getElem? at_)
  cases World.step_ok done with
  | enter idle waits =>
    refine ⟨based, h.same, ?_, ?_, ?_, ?_, ?_, ?_⟩
    · intro job member
      exact (h.jobs job member).follows follows
    · intro report member
      exact (h.ready report (List.mem_of_mem_eraseIdx member)).imp_right
        fun owed => owed.follows follows
    · intro task member
      rcases List.mem_cons.1 member with rfl | old
      · refine ⟨rfl, proper, ?_⟩
        intro outcome is
        obtain rfl := Option.some.inj is
        exact owed.follows follows
      · exact (h.tasks task old).follows follows rfl
    · intro delivery member
      exact (h.sent delivery member).follows follows
    · have moved := (perm.map Callback.thread).append_right (s.world.tasks.map Task.thread)
      exact List.perm_middle.nodup_iff.2 (moved.nodup_iff.1 h.threads)
    -- tokens are unique, so no request but that of the callback goes
    · have others : (s.world.exchange.requests.filter
          fun request => request.token ≠ callback.context).map Request.token
          = (s.world.exchange.requests.map Request.token).erase callback.context := by
        rw [h.requests_nodup.erase_eq_filter, List.filter_map]
        congr 2
        funext request
        simp [bne, BEq.beq]
      have moved := (perm.map Callback.context).append_left (s.host.jobs.map Job.context)
      have rest := ((h.taken.trans moved).trans List.perm_middle).erase callback.context
      rw [List.erase_cons_head, ← others] at rest
      exact rest

/-- **What the engine does keeps the invariant.** -/
theorem report (h : Serving engine engines s) {place : Nat} {answer : Answer} {s' : Service}
    (done : s.report place = .ok (answer, s')) : Serving engine engines s' := by
  unfold Service.report at done
  split at done
  · simp at done
  · rename_i callback at_
    split at done
    · simp at done
    · unfold Service.after at done
      split at done
      · simp at done
      · rename_i stepped
        cases done
        exact h.of_enter at_ stepped

/-- **Every turn keeps the invariant.** -/
theorem step (h : Serving engine engines s) {turn : Turn} {answer : Answer} {s' : Service}
    (done : s.step turn = .ok (answer, s')) : Serving engine engines s' := by
  cases turn with
  | act action => exact h.act done
  | finish thread place => exact h.finish done
  | report place => exact h.report done

/-! ## Runs -/

/-- Nothing has happened, and threads may have left anything in their places. -/
theorem initial (host : Host) (idle : host.jobs = []) (engines : BridgeId → EngineHandle) :
    Serving host.engine engines (.initial host engines) where
  based := World.initial_based host engines
  same := rfl
  jobs job member := absurd (idle ▸ member : job ∈ []) List.not_mem_nil
  ready _ member := absurd member List.not_mem_nil
  tasks _ member := absurd member List.not_mem_nil
  sent _ member := absurd member List.not_mem_nil
  threads := List.nodup_nil
  taken := by
    have none : (Service.initial host engines).host.jobs = [] := idle
    rw [none]
    exact .refl _

theorem service_isRun : IsRun Service.step Service.run where
  nil _ := rfl
  cons turn turns s := by
    rw [Service.run]
    rcases Service.step turn s with halt | ⟨answer, next⟩
    · rfl
    · simp only [bind, Except.bind]
      cases Service.run turns next <;> rfl

/-- **Every run keeps the invariant.** -/
theorem run {turns : List Turn} {answers : List Answer} (h : Serving engine engines s)
    (ran : s.run turns = .ok (answers, s')) : Serving engine engines s' :=
  service_isRun.keeps (fun h (_ : True) stepped => h.step stepped) h (fun _ _ => trivial) ran

end Serving

end EngineBridge
