import EngineBridge.Proofs.Calls.Unloading
/-!
# Engines that answer later

Some engines make no callback before the call that hands them a request returns.  Then a poll
does one of two things, `Exchange.Polls`: it hands a request over under a new token, or it only
collects.  No token ever passes from one call to another (`World.Follows`), and every slot
belongs to a request that waits for its callback or to a callback that has not retired it
(`World.Covered`).
-/

namespace EngineBridge

variable {σ : Type} {libraries : BridgeId → NativeLibrary σ} {engines : BridgeId → EngineHandle}

/-- A library that answers no request of a bridge before the request's call returns. -/
def NativeLibrary.Defers (library : NativeLibrary σ) : Prop :=
  ∀ request sent token s, toCText request = .ok sent → (library.execute token sent s).1 = []

namespace Exchange

variable {x x' : Exchange σ} {calls : List Call} {hand : List Token} {held : BridgeId → Nat}

/-! ## What a poll does -/

/-- What looking at a call does when no engine answers at once. -/
inductive Polls (libraries : BridgeId → NativeLibrary σ) (x x' : Exchange σ) : Call → Call → Prop
    where
  /-- Nothing was handed over, as nothing was to be handed over. -/
  | collects {call call' : Call} (kept : call' = .gone ∨ call' = call) (calm : Calm x x')
    (refused : ∀ bridge request, call = .unstarted bridge request →
      ∃ refusal, toCText request = .error refusal) :
    Polls libraries x x' call call'
  /-- A request was handed over. -/
  | hands {bridge : BridgeId} {request : String} {text : CText} {call' : Call}
    (sent : toCText request = .ok text)
    (kept : call' = .gone ∨ call' = .started bridge x.arena.nextToken)
    (calm : Calm (x.handed libraries bridge text) x') :
    Polls libraries x x' (.unstarted bridge request) call'

/-- A deferred handing over is the registering and the engine's part, and nothing else. -/
theorem handOver_defers (defers : ∀ bridge, (libraries bridge).Defers) {bridge : BridgeId}
    {request : String} {text : CText} (sent : toCText request = .ok text) (x : Exchange σ) :
    x.handOver libraries bridge text
      = .ok (x.arena.nextToken, x.handed libraries bridge text) := by
  rw [handOver_eq, defers bridge request text _ _ sent]
  rfl

theorem pollWithin_polls (defers : ∀ bridge, (libraries bridge).Defers) {limit : Option Duration}
    {passed : Bool} {call call' : Call} {progress : Progress}
    (done : x.pollWithin libraries hand limit passed call = .ok (progress, call', x')) :
    Polls libraries x x' call call' := by
  obtain ⟨seen, call'', y, polled, ended⟩ := pollWithin_ok done
  have polls : Polls libraries x y call call'' := by
    cases pollAmid_ok polled with
    | gone => exact .collects (.inl rfl) (.refl x) fun _ _ is => by simp at is
    | started collected =>
      obtain ⟨calm, kept⟩ := collect_calm collected
      exact .collects kept calm fun _ _ is => by simp at is
    | refused refusal =>
      exact .collects (.inl rfl) (drop_calm _ x) fun _ _ is =>
        ⟨_, (Call.unstarted.inj is).2 ▸ refusal⟩
    | handed sent handed collected =>
      rw [handOver_defers defers sent] at handed
      cases handed
      obtain ⟨calm, kept⟩ := collect_calm collected
      exact .hands sent kept calm
  -- a limit that has passed drops the call and does nothing else
  rcases ended with ⟨-, rfl, rfl, -⟩ | ⟨span, -, -, -, -, rfl, rfl⟩
  · exact polls
  · cases polls with
    | collects kept calm refused => exact .collects (.inl rfl) (calm.trans (drop_calm _ _)) refused
    | hands sent kept calm => exact .hands sent (.inl rfl) (calm.trans (drop_calm _ _))

/-- A stage of a callback issues no token and takes no request, and its slot stays as long as it
is before it. -/
theorem advance_quiet {callback : Callback} {stage : Stage} {next : Option Stage}
    (done : x.advance libraries callback stage = .ok (next, x')) :
    x'.arena.nextToken = x.arena.nextToken ∧ x'.requests = x.requests ∧
      ∀ slot ∈ x'.arena.slots, slot ∈ x.arena.slots ∧
        (slot.1 = callback.context → stage.isPledged = true →
          ∃ later, next = some later ∧ later.isPledged = true) := by
  cases advance_ok done with
  | looks found => exact ⟨rfl, rfl, fun slot member => ⟨member, fun _ _ => ⟨_, rfl, rfl⟩⟩⟩
  | reads read => exact ⟨rfl, rfl, fun slot member => ⟨member, fun _ _ => ⟨_, rfl, rfl⟩⟩⟩
  | frees => exact ⟨rfl, rfl, fun slot member => ⟨member, fun _ _ => ⟨_, rfl, rfl⟩⟩⟩
  | leaves => exact ⟨rfl, rfl, fun slot member => ⟨member, fun _ _ => ⟨_, rfl, rfl⟩⟩⟩
  | retires outcome taken =>
    rw [(takeSlot_ok taken).2]
    refine ⟨rfl, rfl, ?_⟩
    intro slot member
    obtain ⟨old, other⟩ := List.mem_filter.1 member
    exact ⟨old, fun own => by simp [own] at other⟩
  | sends bridge outcome =>
    rw [send_arena, send_requests]
    exact ⟨rfl, rfl, fun slot member => ⟨member, fun _ pledged => by cases pledged⟩⟩
  | _ => exact ⟨rfl, rfl, fun slot member => ⟨member, fun _ pledged => by cases pledged⟩⟩

/-- Leaving out callbacks that are not made changes nothing. -/
theorem pollWithin_deferred (defers : ∀ bridge, (libraries bridge).Defers)
    (limit : Option Duration) (passed : Bool) (call : Call) (x : Exchange σ) :
    x.pollWithin (fun bridge => (libraries bridge).deferred) hand limit passed call
      = x.pollWithin libraries hand limit passed call := by
  have same : x.pollAmid (fun bridge => (libraries bridge).deferred) hand call
      = x.pollAmid libraries hand call := by
    cases call with
    | gone => rfl
    | started bridge token => rfl
    | unstarted bridge request =>
      simp only [pollAmid]
      cases sent : toCText request with
      | error error => rfl
      | ok text =>
        have deferred : ∀ bridge, (libraries bridge).deferred.Defers := fun _ _ _ _ _ _ => rfl
        simp only [handOver_defers defers sent, handOver_defers deferred sent]
        rfl
  rw [pollWithin, pollWithin, same]

end Exchange

namespace World

variable {w w' : World σ}

/-- Leaving out callbacks that are not made changes no step. -/
theorem step_deferred (defers : ∀ bridge, (libraries bridge).Defers) {action : Action σ}
    (staged : action.isStaged = true) (w : World σ) :
    w.step (fun bridge => (libraries bridge).deferred) action = w.step libraries action := by
  cases action with
  | poll place passed =>
    simp only [step, World.poll, Exchange.pollWithin_deferred defers]
  | complete callback => simp [Action.isStaged] at staged
  | resume token outcome => simp [Action.isStaged] at staged
  | advance place =>
    simp only [step, World.advance]
    split
    · rfl
    · rename_i callback stage _
      cases stage <;> rfl
    · rfl
    · rfl
  | _ => rfl

/-! ## Tokens stay with their calls -/

/-- A call that has a token had it before with the same request, or got a new one. -/
structure Follows (w w' : World σ) : Prop where
  next : (w.exchange.arena.nextToken : Nat) ≤ w'.exchange.arena.nextToken
  started : ∀ future ∈ w'.futures, ∀ (bridge : BridgeId) (token : Nat),
    future.call = .started bridge token →
      (∃ old ∈ w.futures, old.request = future.request ∧ old.call = .started bridge token) ∨
        (w.exchange.arena.nextToken : Nat) ≤ token

theorem Follows.same (next : w'.exchange.arena.nextToken = w.exchange.arena.nextToken)
    (futures : w'.futures = w.futures) : Follows w w' where
  next := Nat.le_of_eq next.symm
  started future member _ _ is := .inl ⟨future, futures ▸ member, rfl, is⟩

theorem Follows.set {place : Nat} {future : Future} {call : Call}
    (at_ : w.futures[place]? = some future)
    (next : (w.exchange.arena.nextToken : Nat) ≤ w'.exchange.arena.nextToken)
    (futures : w'.futures = w.futures.set place { future with call := call })
    (kept : call = .gone ∨ call = future.call ∨
      ∃ bridge, call = .started bridge w.exchange.arena.nextToken) : Follows w w' where
  next := next
  started found member bridge token is := by
    rw [futures] at member
    rcases List.mem_or_eq_of_mem_set member with old | rfl
    · exact .inl ⟨found, old, rfl, is⟩
    · rcases kept with rfl | rfl | ⟨bridge', rfl⟩
      · simp at is
      · exact .inl ⟨future, List.mem_of_getElem? at_, rfl, is⟩
      · exact .inr (Nat.le_of_eq (Call.started.inj is).2)

/-- **Tokens stay with their calls**, whatever happens. -/
theorem step_follows (defers : ∀ bridge, (libraries bridge).Defers) {action : Action σ}
    {answer : Answer} (staged : action.isStaged = true)
    (done : w.step libraries action = .ok (answer, w')) : Follows w w' := by
  cases step_ok done with
  | poll at_ polled =>
    have polls := Exchange.pollWithin_polls defers polled
    generalize same : Future.call _ = was at polls
    cases polls with
    | collects kept calm =>
      rw [← same] at kept
      have next := congrArg Arena.nextToken calm.arena
      exact Follows.set at_ (Nat.le_of_eq next.symm) rfl (kept.imp_right .inl)
    | hands sent kept calm =>
      have next := congrArg Arena.nextToken calm.arena
      exact Follows.set at_ (Nat.le_trans (Nat.le_succ _) (Nat.le_of_eq next.symm)) rfl
        (kept.imp_right fun is => .inr ⟨_, is⟩)
  | @drop _ future at_ =>
    have next := congrArg Arena.nextToken (Exchange.drop_calm future.call w.exchange).arena
    exact Follows.set at_ (Nat.le_of_eq next.symm) rfl (.inl rfl)
  | start able =>
    refine ⟨Nat.le_refl _, ?_⟩
    intro future member bridge token is
    rcases List.mem_append.1 member with old | new
    · exact .inl ⟨future, old, rfl, is⟩
    · obtain rfl := List.mem_singleton.1 new
      simp at is
  | complete completed => simp [Action.isStaged] at staged
  | resume resumes => simp [Action.isStaged] at staged
  | returns at_ advanced => exact .same (Exchange.advance_quiet advanced).1 rfl
  | advances at_ advanced => exact .same (Exchange.advance_quiet advanced).1 rfl
  | _ => exact .same rfl rfl

/-! ## Slots that will be retired -/

/-- Every slot belongs to a request that waits for its callback, or to a callback that has not
retired it. -/
def Covered (w : World σ) : Prop :=
  ∀ slot ∈ w.exchange.arena.slots,
    (∃ request ∈ w.exchange.requests, request.token = slot.1) ∨
      ∃ task ∈ w.tasks, ∃ bridge, task.pledge? = some (slot.1, bridge)

theorem initial_covered (native : σ) (engines : BridgeId → EngineHandle) :
    Covered (initial native engines) := fun _ member => absurd member List.not_mem_nil

theorem Covered.same (h : Covered w) (slots : w'.exchange.arena.slots = w.exchange.arena.slots)
    (requests : w'.exchange.requests = w.exchange.requests)
    (tasks : ∀ task ∈ w.tasks, task ∈ w'.tasks ∨ task.pledge? = none) : Covered w' := by
  intro slot member
  rw [slots] at member
  rw [requests]
  rcases h slot member with waits | ⟨task, at_, bridge, pledge⟩
  · exact .inl waits
  · rcases tasks task at_ with still | none
    · exact .inr ⟨task, still, bridge, pledge⟩
    · simp [none] at pledge

/-- A task is the one at a place, or another one. -/
theorem mem_erase_or_eq {place : Nat} {task found : Task} (at_ : w.tasks[place]? = some found)
    (member : task ∈ w.tasks) : task = found ∨ task ∈ w.tasks.eraseIdx place :=
  List.mem_cons.1 ((perm_of_getElem? at_).mem_iff.1 member)

theorem mem_set_of_erase {place : Nat} {task found : Task} (at_ : w.tasks[place]? = some found)
    (task' : Task) (other : task ∈ w.tasks.eraseIdx place) : task ∈ w.tasks.set place task' :=
  (set_perm_of_getElem? at_ task').mem_iff.2 (List.mem_cons_of_mem _ other)

/-- What covers a slot after a stage of a callback: what covered it before, where a pledge of the
callback itself is one of its next stage. -/
theorem Covered.after_stage {place : Nat} {thread : ThreadId} {engine : BridgeId}
    {callback : Callback} {stage : Stage} {next : Option Stage} {x : Exchange σ} (h : Covered w)
    (at_ : w.tasks[place]? = some ⟨thread, engine, .callback callback stage⟩)
    (advanced : w.exchange.advance libraries callback stage = .ok (next, x)) :
    ∀ slot ∈ x.arena.slots,
      (∃ request ∈ x.requests, request.token = slot.1) ∨
        (∃ task ∈ w.tasks.eraseIdx place, ∃ bridge, task.pledge? = some (slot.1, bridge)) ∨
          ∃ later, next = some later ∧
            (Task.mk thread engine (.callback callback later)).pledge? = some (slot.1, engine) := by
  obtain ⟨-, requests, slots⟩ := Exchange.advance_quiet advanced
  intro slot member
  obtain ⟨old, own⟩ := slots slot member
  rcases h slot old with ⟨request, waits, same⟩ | ⟨task, at_task, bridge, pledge⟩
  · exact .inl ⟨request, requests ▸ waits, same⟩
  · rcases mem_erase_or_eq at_ at_task with rfl | other
    · simp only [Task.pledge?] at pledge
      split at pledge
      · have same := congrArg Prod.fst (Option.some.inj pledge)
        obtain ⟨later, is, pledged⟩ := own same.symm ‹_›
        refine .inr (.inr ⟨later, is, ?_⟩)
        rw [← same]
        simp only [Task.pledge?, pledged, if_true]
      · cases pledge
    · exact .inr (.inl ⟨task, other, bridge, pledge⟩)

theorem Covered.returns {place : Nat} {thread : ThreadId} {engine : BridgeId}
    {callback : Callback} {stage : Stage} {x : Exchange σ} (h : Covered w)
    (at_ : w.tasks[place]? = some ⟨thread, engine, .callback callback stage⟩)
    (advanced : w.exchange.advance libraries callback stage = .ok (none, x)) :
    Covered { w with exchange := x, tasks := w.tasks.eraseIdx place } := by
  intro slot member
  rcases h.after_stage at_ advanced slot member with waits | others | ⟨later, is, -⟩
  · exact .inl waits
  · exact .inr others
  · cases is

theorem Covered.advances {place : Nat} {thread : ThreadId} {engine : BridgeId}
    {callback : Callback} {stage next : Stage} {x : Exchange σ} (h : Covered w)
    (at_ : w.tasks[place]? = some ⟨thread, engine, .callback callback stage⟩)
    (advanced : w.exchange.advance libraries callback stage = .ok (some next, x)) :
    Covered { w with
      exchange := x
      tasks := w.tasks.set place ⟨thread, engine, .callback callback next⟩ } := by
  intro slot member
  rcases h.after_stage at_ advanced slot member with waits | ⟨task, other, pledge⟩ |
    ⟨later, is, pledge⟩
  · exact .inl waits
  · exact .inr ⟨task, mem_set_of_erase at_ _ other, pledge⟩
  · obtain rfl := Option.some.inj is
    exact .inr ⟨_, (set_perm_of_getElem? at_ _).mem_iff.2 List.mem_cons_self, engine, pledge⟩

theorem Covered.enter {bridge : BridgeId} {callback : Callback} {native : σ} (h : Covered w) :
    Covered { w with
      exchange := { w.exchange with native := native }.enter callback.context
      tasks := ⟨callback.thread, bridge, .callback callback .looking⟩ :: w.tasks } := by
  intro slot member
  rcases h slot member with ⟨request, waits, same⟩ | ⟨task, at_, bridge', pledge⟩
  · by_cases own : request.token = callback.context
    · refine .inr ⟨_, List.mem_cons_self, bridge, ?_⟩
      rw [← same, own]
      rfl
    · exact .inl ⟨request, List.mem_filter.2 ⟨waits, by simpa using own⟩, same⟩
  · exact .inr ⟨task, List.mem_cons_of_mem _ at_, bridge', pledge⟩

theorem Covered.of_handed {bridge : BridgeId} {text : CText} (h : Covered w)
    (calm : (w.exchange.handed libraries bridge text).Calm w'.exchange)
    (tasks : w'.tasks = w.tasks) : Covered w' := by
  intro slot member
  rw [calm.arena] at member
  rw [calm.requests, tasks]
  rcases List.mem_cons.1 member with rfl | old
  · exact .inl ⟨_, List.mem_cons_self, rfl⟩
  · rcases h slot old with ⟨request, waits, same⟩ | pledged
    · exact .inl ⟨request, List.mem_cons_of_mem _ waits, same⟩
    · exact .inr pledged

theorem step_covered (defers : ∀ bridge, (libraries bridge).Defers) {action : Action σ}
    {answer : Answer} (h : Covered w) (staged : action.isStaged = true)
    (done : w.step libraries action = .ok (answer, w')) : Covered w' := by
  cases step_ok done with
  | poll at_ polled =>
    have polls := Exchange.pollWithin_polls defers polled
    generalize Future.call _ = was at polls
    cases polls with
    | collects kept calm => exact h.same (by rw [calm.arena]) calm.requests fun _ => .inl
    | hands sent kept calm => exact h.of_handed calm rfl
  | @drop _ future at_ =>
    have calm := Exchange.drop_calm future.call w.exchange
    exact h.same (by rw [calm.arena]) calm.requests fun _ => .inl
  | complete completed => simp [Action.isStaged] at staged
  | resume resumes => simp [Action.isStaged] at staged
  | enter idle waits => exact h.enter
  | call idle able => exact h.same rfl rfl fun _ old => .inl (List.mem_cons_of_mem _ old)
  | returns at_ advanced => exact h.returns at_ advanced
  | advances at_ advanced => exact h.advances at_ advanced
  | answers at_ =>
    refine h.same rfl rfl ?_
    intro task member
    rcases mem_erase_or_eq at_ member with rfl | other
    · exact .inr rfl
    · exact .inl other
  | continues at_ more =>
    refine h.same rfl rfl ?_
    intro task member
    rcases mem_erase_or_eq at_ member with rfl | other
    · exact .inr rfl
    · exact .inl (mem_set_of_erase at_ _ other)
  | _ => exact h.same rfl rfl fun _ => .inl

end World

end EngineBridge
