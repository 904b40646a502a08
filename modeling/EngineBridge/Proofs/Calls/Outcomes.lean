import EngineBridge.Proofs.Calls.Serving
import Mathlib.Algebra.GroupWithZero.Nat
/-!
# Every caller gets the outcome of its own call

`own_outcomes`: whoever calls a reference engine, from whatever threads and in whatever order
everybody takes steps, gets what the engine makes of the caller's own request, and each codec
call the failure that it raised itself.
-/

namespace EngineBridge

namespace Exchange

variable {σ : Type} {libraries : BridgeId → NativeLibrary σ} {engines : BridgeId → EngineHandle}
  {x : Exchange σ} {call : Call} {calls : List Call} {hand : List Token} {held : BridgeId → Nat}

/-- Looking at a call breaks no rule if no engine answers at once. -/
theorem Books.pollWithin_ne_error (defers : ∀ bridge, (libraries bridge).Defers)
    (h : Books engines x (call :: calls) hand held) (limit : Option Duration) (passed : Bool)
    (violation : Violation) :
    x.pollWithin libraries hand limit passed call ≠ .error violation := by
  have looked : x.pollAmid libraries hand call ≠ .error violation := by
    cases call with
    | gone => simp [Exchange.pollAmid]
    | started bridge token => exact h.collect_ne_error
    | unstarted bridge request =>
      simp only [Exchange.pollAmid]
      cases sent : toCText request with
      | error refusal => simp
      | ok text =>
        have handed : x.handOver libraries bridge text = _ := handOver_defers defers sent x
        simp only [handed]
        exact ((unstarted_iff.1 h).handOver handed).collect_ne_error
  intro failed
  unfold Exchange.pollWithin at failed
  split at failed
  · rename_i polled
    exact looked (polled.trans (by rw [Except.error.inj failed]))
  · split at failed <;> simp at failed

end Exchange

namespace Serving

variable {engine : Engine} {engines : BridgeId → EngineHandle} {s s' : Service}

/-! ## What callers see -/

/-- An outcome that was sent to a call is the one of its request. -/
theorem sent_answer (h : Serving engine engines s) {place : Nat} {future : Future} {token : Token}
    {outcome : Outcome} {resumed : Resumed} (at_ : s.world.futures[place]? = some future)
    (own : s.world.exchange.tokenFor future.call = some token)
    (sent : ⟨token, outcome, resumed⟩ ∈ s.world.exchange.deliveries) :
    outcome = engine.answer future.request := by
  have member := List.mem_of_getElem? at_
  obtain ⟨issued, owed⟩ := h.sent _ sent
  cases is : future.call with
  | gone => simp [is, Exchange.tokenFor] at own
  | started bridge token' =>
    rw [is] at own
    obtain rfl := Option.some.inj own
    exact (owed future member bridge is).symm
  | unstarted bridge request =>
    -- the next token was sent to nobody
    rw [is] at own
    simp only [Exchange.tokenFor] at own
    split at own
    · obtain rfl := Option.some.inj own
      exact absurd issued (Nat.lt_irrefl _)
    · simp at own

/-- **Whoever is shown an outcome is shown the one of the own request**, unless the own limit has
passed. -/
theorem poll_answers (h : Serving engine engines s) {place : Nat} {passed : Bool} {outcome : Outcome}
    (done : s.step (.act (.poll place passed)) = .ok (.progress (.ready outcome), s')) :
    ∃ future, s.world.futures[place]? = some future ∧
      (outcome = engine.answer future.request ∨
        passed = true ∧ ∃ span, future.limit = some span ∧ outcome = .error (.timedOut span)) := by
  generalize is : Answer.progress (.ready outcome) = answer at done
  obtain ⟨-, -, w, stepped, -⟩ := act_ok done
  cases World.step_ok stepped with
  | @poll _ _ future progress call x at_ polled =>
    obtain rfl := Answer.progress.inj is
    refine ⟨future, at_, ?_⟩
    have shown := (h.based.sound.at_future at_).pollWithin_shown polled
    have polls := Exchange.pollWithin_polls Service.libraries_defer polled
    have own := h.based.own future (List.mem_of_getElem? at_)
    have same : x.deliveries = s.world.exchange.deliveries := by
      generalize future.call = was at polls
      cases polls with
      | collects kept calm => exact calm.deliveries
      | hands sent kept calm => exact calm.deliveries
    generalize was_eq : future.call = was at shown
    cases shown with
    | refused refusal =>
      left
      rw [Engine.answer, ← own _ _ was_eq, refusal]
    | answered token_eq delivered =>
      rw [same] at delivered
      exact .inl (h.sent_answer at_ (was_eq ▸ token_eq) delivered)
    | timedOut token_eq unsent limited late => exact .inr ⟨late, _, limited, rfl⟩

/-- **A codec call that ends answers what it asked for.** -/
theorem codec_answers (h : Serving engine engines s) {place : Nat} {result : CodecResult}
    (done : s.step (.act (.advance place)) = .ok (.codec result, s')) :
    ∃ thread bridge call stage,
      s.world.tasks[place]? = some ⟨thread, bridge, .codec call stage⟩ ∧ call.Answers result := by
  generalize is : Answer.codec result = answer at done
  obtain ⟨-, -, w, stepped, -⟩ := act_ok done
  cases World.step_ok stepped with
  | answers at_ =>
    obtain rfl := Answer.codec.inj is
    exact ⟨_, _, _, _, at_, h.tasks _ (List.mem_of_getElem? at_)⟩
  | returns => cases is
  | advances => cases is
  | continues => cases is

/-! ## Nothing breaks and nothing is stuck -/

/-- The slot of a callback is there until the callback retires it. -/
theorem finds_slot (h : Serving engine engines s) {place : Nat} {thread : ThreadId}
    {bridge : BridgeId} {callback : Callback} {stage : Stage}
    (at_ : s.world.tasks[place]? = some ⟨thread, bridge, .callback callback stage⟩)
    (pledged : stage.isPledged = true) :
    ∃ bridge, s.world.exchange.arena.find? callback.context = some bridge := by
  have pledge : (callback.context, bridge) ∈ s.world.tasks.filterMap Task.pledge? :=
    List.mem_filterMap.2 ⟨_, List.mem_of_getElem? at_, by simp [Task.pledge?, pledged]⟩
  have kept := h.based.attended.keeps (callback.context, bridge)
  have := List.count_pos_iff.2 pledge
  have slot : (callback.context, bridge) ∈ s.world.exchange.arena.slots :=
    List.count_pos_iff.1 (by omega)
  refine Option.ne_none_iff_exists'.1 ?_
  intro none
  exact lookup_eq_none_iff.1 none (List.mem_map_of_mem slot)

theorem goes_on (h : Serving engine engines s) {place : Nat} {thread : ThreadId}
    {bridge : BridgeId} {callback : Callback} {stage : Stage}
    (at_ : s.world.tasks[place]? = some ⟨thread, bridge, .callback callback stage⟩) :
    ∃ next x, s.world.exchange.advance Service.libraries callback stage = .ok (next, x) := by
  obtain ⟨-, proper, -⟩ := h.tasks _ (List.mem_of_getElem? at_)
  cases stage with
  | looking =>
    obtain ⟨bridge, found⟩ := h.finds_slot at_ rfl
    simp only [Exchange.advance, Exchange.lookUp, found]
    exact ⟨_, _, rfl⟩
  | reading bridge =>
    obtain ⟨buffer, host, read, -⟩ := Host.readReport_told proper s.world.exchange.native
    simp only [Exchange.advance, Service.libraries, read]
    exact ⟨_, _, rfl⟩
  | retiring outcome =>
    obtain ⟨bridge, found⟩ := h.finds_slot at_ rfl
    simp only [Exchange.advance, Exchange.takeSlot, Arena.removeSlot, found]
    exact ⟨_, _, rfl⟩
  | _ => exact ⟨_, _, rfl⟩

/-- **No rule is broken**, so the process is not aborted. -/
theorem step_ne_violation (h : Serving engine engines s) (turn : Turn) (violation : Violation) :
    s.step turn ≠ .error (.violation violation) := by
  intro failed
  cases turn with
  | act action =>
    simp only [Service.step, Service.act, Service.after] at failed
    split at failed
    · rename_i able
      split at failed
      · rename_i stepped
        rw [Except.error.inj failed] at stepped
        cases World.step_aborts stepped with
        | poll at_ polled =>
          have books := h.based.sound.at_future at_
          exact books.pollWithin_ne_error Service.libraries_defer _ _ _ polled
        | complete completed => simp [Action.isServed] at able
        | advance at_ advanced =>
          obtain ⟨next, x, goes⟩ := h.goes_on at_
          rw [goes] at advanced
          cases advanced
      · simp at failed
    · simp at failed
  | finish thread place =>
    simp only [Service.step, Service.finish, Service.after, World.step] at failed
    split at failed
    · simp at failed
    · split at failed <;> simp at failed
  | report place =>
    simp only [Service.step, Service.report, Service.after, World.step, World.enter] at failed
    split at failed
    · simp at failed
    · split at failed
      · simp at failed
      · split at failed
        · rename_i stepped
          split at stepped
          · simp at stepped
          · rw [← Except.error.inj stepped] at failed
            simp at failed
        · simp at failed

theorem can_finish {thread : ThreadId} {place : Nat} (free : s.isFree thread = true)
    (bound : place < s.host.jobs.length) :
    ∃ s', s.step (.finish thread place) = .ok (.done, s') ∧
      s'.world.futures = s.world.futures := by
  simp only [Service.step, Service.finish, List.getElem?_eq_getElem bound, free, if_true,
    Service.after, World.step]
  exact ⟨_, rfl, rfl⟩

theorem can_report (h : Serving engine engines s) {place : Nat}
    (bound : place < s.ready.length) :
    ∃ s', s.step (.report place) = .ok (.done, s') ∧ s'.world.futures = s.world.futures := by
  have at_ := List.getElem?_eq_getElem bound
  generalize s.ready[place] = callback at at_
  have member := List.mem_of_getElem? at_
  have waits : callback.context ∈ s.world.exchange.requests.map Request.token :=
    h.taken.mem_iff.2 (List.mem_append_right _ (List.mem_map_of_mem member))
  obtain ⟨request, present, same⟩ := List.mem_map.1 waits
  have found : ∃ request, s.world.exchange.requests.find?
      (fun request => request.token = callback.context) = some request := by
    refine Option.isSome_iff_exists.1 (List.find?_isSome.2 ⟨request, present, ?_⟩)
    simpa using same
  obtain ⟨request, found⟩ := found
  have outstanding : s.world.isOutstanding callback.context request.bridge = true :=
    List.any_eq_true.2 ⟨request, List.mem_of_find?_eq_some found, by
      simpa using List.find?_some found⟩
  have idle : s.world.isIdle callback.thread = true := by
    have apart := (List.nodup_append.1 h.threads).2.2 _ (List.mem_map_of_mem member)
    refine List.all_eq_true.2 ?_
    intro task present
    simpa using (apart _ (List.mem_map_of_mem present)).symm
  simp only [Service.step, Service.report, at_, found, Service.after, World.step, World.enter, idle,
    outstanding, and_self, if_true]
  exact ⟨_, rfl, rfl⟩

/-- A task can go through its next stage at once. -/
theorem can_advance (h : Serving engine engines s) {place : Nat}
    (bound : place < s.world.tasks.length) :
    ∃ answer s', s.step (.act (.advance place)) = .ok (answer, s') ∧
      s'.world.futures = s.world.futures := by
  have at_ := List.getElem?_eq_getElem bound
  generalize s.world.tasks[place] = task at at_
  obtain ⟨thread, bridge, work⟩ := task
  have able : (Action.advance place : Action Host).isServed = true ∧
      ((Action.advance place : Action Host).thread?.all fun thread => s.isFree thread) = true :=
    ⟨rfl, rfl⟩
  simp only [Service.step, Service.act, if_pos able, Service.after, World.step, World.advance, at_]
  cases work with
  | callback callback stage =>
    obtain ⟨next, x, goes⟩ := h.goes_on at_
    simp only [goes]
    cases next <;> exact ⟨_, _, rfl, rfl⟩
  | codec call stage =>
    cases stage with
    | answered status out => exact ⟨_, _, rfl, rfl⟩
    | freeing buffers result => cases buffers <;> exact ⟨_, _, rfl, rfl⟩

end Serving

/-! ## Work comes to an end -/

/-- How many stages a callback has before it. -/
def Stage.left : Stage → Nat
  | looking => 9
  | reading _ => 8
  | freeing .. => 7
  | leaving .. => 6
  | retiring _ => 5
  | lowering .. => 4
  | sending .. => 3
  | closing _ => 2
  | returning => 1

/-- How many stages a codec call has before it, at most. -/
def CodecStage.left : CodecStage → Nat
  | answered .. => 4
  | freeing buffers _ => buffers.length + 1

/-- How many stages a task has before it, at most. -/
def Task.left (task : Task) : Nat :=
  match task.work with
  | .callback _ stage => stage.left
  | .codec _ stage => stage.left

namespace Service

/-- How many turns are left to the engine and to threads, at most. -/
def left (s : Service) : Nat :=
  11 * s.host.jobs.length + 10 * s.ready.length + (s.world.tasks.map Task.left).sum

/-- Whether the engine and all threads are done. -/
def IsSettled (s : Service) : Prop := s.host.jobs = [] ∧ s.ready = [] ∧ s.world.tasks = []

end Service

theorem Exchange.advance_left {σ : Type} {libraries : BridgeId → NativeLibrary σ}
    {x x' : Exchange σ} {callback : Callback} {stage : Stage} {next : Option Stage}
    (done : x.advance libraries callback stage = .ok (next, x')) :
    (next.map Stage.left).getD 0 < stage.left := by
  cases advance_ok done <;> simp [Stage.left]

theorem NativeLibrary.advanceCodec_left {σ : Type} (library : NativeLibrary σ) (thread : ThreadId)
    (call : CodecCall) (stage : CodecStage) (s : σ) (more : ∀ result, stage ≠ .freeing [] result) :
    (library.advanceCodec thread call stage s).1.left < stage.left := by
  cases stage with
  | freeing buffers result =>
    cases buffers with
    | nil => exact absurd rfl (more result)
    | cons buffer buffers => simp [advanceCodec, CodecStage.left]
  | answered status out =>
    -- at most the buffer of the detail and one of the call are given back
    have toList (buffer : Option Buffer) : buffer.toList.length ≤ 1 := by cases buffer <;> simp
    simp only [advanceCodec, settleCodec]
    split
    · simp [CodecStage.left]
    · rename_i buffer _
      split
      · split
        · cases call <;> simp [CodecCall.success, CodecStage.left]
        · simp [CodecStage.left]
      · split
        · have := toList buffer
          simp only [CodecStage.left]
          omega
        · rename_i detail _ _
          have := toList buffer
          have := toList detail
          simp only [CodecStage.left, List.length_append]
          omega

namespace World

variable {σ : Type} {libraries : BridgeId → NativeLibrary σ} {w w' : World σ}

theorem left_at {place : Nat} {task : Task} (at_ : w.tasks[place]? = some task) :
    (w.tasks.map Task.left).sum
      = task.left + ((w.tasks.eraseIdx place).map Task.left).sum := by
  rw [((perm_of_getElem? at_).map Task.left).sum_nat, List.map_cons, List.sum_cons]

theorem left_set {place : Nat} {task : Task} (at_ : w.tasks[place]? = some task) (task' : Task) :
    ((w.tasks.set place task').map Task.left).sum
      = task'.left + ((w.tasks.eraseIdx place).map Task.left).sum := by
  rw [((set_perm_of_getElem? at_ task').map Task.left).sum_nat, List.map_cons, List.sum_cons]

theorem advance_left {place : Nat} {answer : Answer}
    (done : w.step libraries (.advance place) = .ok (answer, w')) :
    (w'.tasks.map Task.left).sum < (w.tasks.map Task.left).sum := by
  cases step_ok done with
  | returns at_ advanced =>
    have less := Exchange.advance_left advanced
    rw [left_at at_]
    simp only [Task.left]
    omega
  | advances at_ advanced =>
    have less := Exchange.advance_left advanced
    simp only [Option.map_some, Option.getD_some] at less
    rw [left_at at_, left_set at_]
    simp only [Task.left]
    omega
  | answers at_ =>
    rw [left_at at_]
    simp only [Task.left, CodecStage.left]
    omega
  | @continues _ thread bridge codec stage at_ more =>
    have less := (libraries bridge).advanceCodec_left thread codec stage w.exchange.native more
    rw [left_at at_, left_set at_]
    simp only [Task.left]
    omega

end World

namespace Serving

variable {engine : Engine} {engines : BridgeId → EngineHandle} {s s' : Service}

theorem advance_jobs (h : Serving engine engines s) {place : Nat} {answer : Answer}
    {w : World Host} (done : s.world.step Service.libraries (.advance place) = .ok (answer, w)) :
    w.exchange.native.jobs = s.host.jobs := by
  cases World.step_ok done with
  | returns at_ advanced =>
    obtain ⟨-, proper, -⟩ := h.tasks _ (List.mem_of_getElem? at_)
    exact (Exchange.advance_told proper advanced).1.jobs
  | advances at_ advanced =>
    obtain ⟨-, proper, -⟩ := h.tasks _ (List.mem_of_getElem? at_)
    exact (Exchange.advance_told proper advanced).1.jobs
  | answers at_ => rfl
  | @continues _ thread _ codec stage at_ more =>
    exact (Host.advanceCodec_told thread codec stage s.host).2.jobs

theorem advance_left (h : Serving engine engines s) {place : Nat} {answer : Answer}
    (done : s.step (.act (.advance place)) = .ok (answer, s')) : s'.left < s.left := by
  obtain ⟨-, -, w, stepped, rfl⟩ := act_ok done
  have jobs := h.advance_jobs stepped
  have less := World.advance_left stepped
  simp only [Service.left, Service.host] at jobs ⊢
  rw [jobs]
  omega

/-- A job that is finished is a callback to enter. -/
theorem finish_left {thread : ThreadId} {place : Nat} {answer : Answer}
    (done : s.step (.finish thread place) = .ok (answer, s')) : s'.left < s.left := by
  simp only [Service.step, Service.finish, Service.after, World.step] at done
  split at done
  · simp at done
  · rename_i job at_
    split at done
    · cases done
      have member := List.mem_of_getElem? at_
      have fewer := List.length_erase_of_mem member
      have some := List.length_pos_of_mem member
      have jobs := (Host.finishOn_told thread job s.host).2.2.2.2.2.1
      simp only [Service.left, Service.host, List.length_cons] at jobs fewer some ⊢
      rw [jobs, fewer]
      omega
    · simp at done

/-- A callback that is entered has nine stages before it. -/
theorem report_left {place : Nat} {answer : Answer}
    (done : s.step (.report place) = .ok (answer, s')) : s'.left < s.left := by
  simp only [Service.step, Service.report, Service.after] at done
  split at done
  · simp at done
  · rename_i callback at_
    split at done
    · simp at done
    · split at done
      · simp at done
      · rename_i stepped
        cases done
        have fewer := (perm_of_getElem? at_).length_eq
        cases World.step_ok stepped with
        | enter idle waits =>
          simp only [Service.left, Service.host, Exchange.enter, List.map_cons, List.sum_cons,
            Task.left, Stage.left, List.length_cons] at fewer ⊢
          omega

/-- As long as something is left to do, the engine or a thread can do it. -/
theorem can_go_on (h : Serving engine engines s) (busy : ¬ s.IsSettled) :
    ∃ turn ∈ [Turn.act (.advance 0), .report 0, .finish 0 0], ∃ answer s',
      s.step turn = .ok (answer, s') ∧ s'.world.futures = s.world.futures ∧ s'.left < s.left := by
  by_cases tasks : s.world.tasks = []
  · by_cases ready : s.ready = []
    · have jobs : s.host.jobs ≠ [] := fun none => busy ⟨none, ready, tasks⟩
      have free : s.isFree 0 = true := isFree_iff.2 (by simp [ready, tasks])
      obtain ⟨s', done, same⟩ := can_finish free (List.length_pos_iff.2 jobs)
      exact ⟨_, by simp, _, s', done, same, finish_left done⟩
    · obtain ⟨s', done, same⟩ := h.can_report (List.length_pos_iff.2 ready)
      exact ⟨_, by simp, _, s', done, same, report_left done⟩
  · obtain ⟨answer, s', done, same⟩ := h.can_advance (List.length_pos_iff.2 tasks)
    exact ⟨_, by simp, answer, s', done, same, h.advance_left done⟩

/-- **Whatever is outstanding can be done**, without the callers doing anything. -/
theorem drains (h : Serving engine engines s) :
    ∃ turns answers s', s.run turns = .ok (answers, s') ∧ s'.IsSettled ∧
      s'.world.futures = s.world.futures := by
  -- every turn of the engine or a thread leaves less to do
  induction bound : s.left using Nat.strongRecOn generalizing s with
  | _ n ih =>
    by_cases settled : s.IsSettled
    · exact ⟨[], [], s, rfl, settled, rfl⟩
    · obtain ⟨turn, -, answer, next, stepped, same, less⟩ := h.can_go_on settled
      obtain ⟨turns, answers, s', ran, settled', same'⟩ :=
        ih next.left (bound ▸ less) (h.step stepped) rfl
      refine ⟨turn :: turns, answer :: answers, s', ?_, settled', same'.trans same⟩
      simp only [Service.run, stepped, ran]

/-- Once everything is done, neither a request nor a callback is left, so no slot is. -/
theorem settled_slots (h : Serving engine engines s) (settled : s.IsSettled) :
    s.world.exchange.arena.slots = [] := by
  obtain ⟨jobs, ready, tasks⟩ := settled
  have requests : s.world.exchange.requests = [] := by
    have taken := h.taken
    rw [jobs, ready] at taken
    exact List.map_eq_nil_iff.1 taken.eq_nil
  refine List.eq_nil_iff_forall_not_mem.2 ?_
  intro slot member
  rcases h.based.covered slot member with ⟨request, present, -⟩ | ⟨task, present, -⟩
  · rw [requests] at present
    exact List.not_mem_nil present
  · rw [tasks] at present
    exact List.not_mem_nil present

/-- **Once everything is done, every caller who waits is answered.** -/
theorem settles (h : Serving engine engines s) (settled : s.IsSettled) {place : Nat}
    {future : Future} {bridge : BridgeId} {token : Nat}
    (at_ : s.world.futures[place]? = some future) (is : future.call = .started bridge token)
    (passed : Bool) : ∃ s', s.step (.act (.poll place passed))
      = .ok (.progress (.ready (engine.answer future.request)), s') := by
  -- no slot is left: the token was sent to
  have slots := h.settled_slots settled
  obtain ⟨jobs, ready, tasks⟩ := settled
  have inHand : s.world.inHand = [] := by rw [World.inHand, tasks]; rfl
  have books := h.based.sound.at_future at_
  rw [is] at books
  have sent : token ∈ s.world.exchange.sent := by
    have issued := h.based.sound.issued_of_awaited books.awaited_of_started
    have somewhere := (h.based.sound.issued token).2 issued
    simp only [Exchange.tokens, slots, inHand, List.map_nil, List.count_nil] at somewhere
    exact List.count_pos_iff.1 (by omega)
  rcases books.collect_eq with ⟨outcome, delivered, collected⟩ | ⟨unsent, -⟩
  · have answered := h.sent_answer at_ (by rw [is]; rfl) delivered
    rw [← answered]
    have able : (Action.poll place passed : Action Host).isServed = true ∧
        ((Action.poll place passed : Action Host).thread?.all fun thread => s.isFree thread) = true :=
      ⟨rfl, rfl⟩
    simp only [Service.step, Service.act, if_pos able, Service.after, World.step, World.poll, at_,
      Exchange.pollWithin, is, Exchange.pollAmid, collected]
    exact ⟨_, rfl⟩
  · exact absurd sent unsent

end Serving

/-! ## Runs -/

/-- What those who use a service can rely on. -/
structure Service.Serves (engine : Engine) (s : Service) : Prop where
  /-- Who looks at a call and is shown an outcome is shown the one of the call's own request, or
  is told that the call's limit has passed. -/
  answers : ∀ place passed outcome s',
    s.step (.act (.poll place passed)) = .ok (.progress (.ready outcome), s') →
    ∃ future, s.world.futures[place]? = some future ∧
      (outcome = engine.answer future.request ∨
        passed = true ∧ ∃ span, future.limit = some span ∧ outcome = .error (.timedOut span))
  /-- A codec call that ends, ends with the frame, the text or the failure of its own. -/
  codecs : ∀ place result s', s.step (.act (.advance place)) = .ok (.codec result, s') →
    ∃ thread bridge call stage,
      s.world.tasks[place]? = some ⟨thread, bridge, .codec call stage⟩ ∧ call.Answers result
  /-- No rule is broken, so nobody aborts the process. -/
  unharmed : ∀ turn violation, s.step turn ≠ .error (.violation violation)
  /-- What the engine and threads have taken up they can bring to its end. -/
  drains : ∃ turns answers s', s.run turns = .ok (answers, s') ∧ s'.IsSettled ∧
    s'.world.futures = s.world.futures
  /-- After that, everybody who still waits for a call is shown the outcome of the call's own
  request, whether a limit has passed or not. -/
  settles : s.IsSettled → ∀ (place : Nat) (future : Future) (bridge : BridgeId) (token : Token),
    s.world.futures[place]? = some future → future.call = .started bridge token → ∀ passed, ∃ s',
      s.step (.act (.poll place passed))
        = .ok (.progress (.ready (engine.answer future.request)), s')

namespace Service

/-- **Every caller gets the outcome of its own call**, whatever threads have left in their places
before and in whatever order callers, the engine and its threads take turns. -/
theorem own_outcomes (host : Host) (idle : host.jobs = []) (engines : BridgeId → EngineHandle)
    (turns : List Turn) (answers : List Answer) (s : Service)
    (ran : run turns (initial host engines) = .ok (answers, s)) : s.Serves host.engine := by
  have serving := (Serving.initial host idle engines).run ran
  exact ⟨fun _ _ _ _ => serving.poll_answers, fun _ _ _ => serving.codec_answers,
    serving.step_ne_violation, serving.drains,
    fun settled _ _ _ _ at_ is => serving.settles settled at_ is⟩

/-- An engine without operations; every thread has something left from before. -/
def untidyHost : Host :=
  { Host.start ⟨NameMap.ofList [], none⟩ with
    side := { EngineSide.initial with lastError := fun _ => some "stale" } }

/-- A call and a codec call that both fail, one stage of each after one of the other. -/
def twoFailures : List Turn :=
  [.act (.start 0 "x" none), .act (.poll 0 false), .act (.call 7 0 (.decode "Tag" [])),
    .finish 1000 0, .act (.advance 0), .report 0, .act (.advance 0), .act (.advance 1),
    .act (.advance 0), .act (.advance 1)]
  ++ List.replicate 7 (.act (.advance 0)) ++ [.act (.poll 0 false)]

/-- The status of the engine's failure that somebody is told of. -/
def failureStatus? : Answer → Option Status
  | .progress (.ready (.error (.nativeStatus status _))) => some status
  | .codec (.error (.error (.nativeStatus status _))) => some status
  | _ => none

theorem own_outcomes_twoFailures : ∃ answers s,
    run twoFailures (initial untidyHost fun _ => .owned 1) = .ok (answers, s) ∧
      answers.filterMap failureStatus? = [.corruptBytes, .invalidArgument] ∧
      s.Serves untidyHost.engine := by
  have statuses : ((run twoFailures (initial untidyHost fun _ => .owned 1)).toOption.map
      fun ran => ran.1.filterMap failureStatus?) = some [.corruptBytes, .invalidArgument] := by
    decide +kernel
  cases ran : run twoFailures (initial untidyHost fun _ => .owned 1) with
  | error halt =>
    rw [ran] at statuses
    cases statuses
  | ok state =>
    obtain ⟨answers, s⟩ := state
    rw [ran] at statuses
    exact ⟨answers, s, rfl, Option.some.inj statuses,
      own_outcomes untidyHost rfl (fun _ => .owned 1) twoFailures answers s ran⟩

end Service

end EngineBridge
