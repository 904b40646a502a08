import EngineBridge.Proofs.Calls.Lifetime
/-!
# Unloading a library under its own callback

The slot of a call owns the bridge until its callback has sent the outcome, and the callback
gives that ownership up before it returns.  If it was the last one, the engine is freed and
its library unloaded while the engine is still inside the callback.

`unloaded_inside_iff` says exactly when this happens: the callback has nothing left to do but
return, and nothing refers to the bridge.  At every earlier stage the callback's own slot or
hand keeps the library.
-/

namespace EngineBridge

/-- The library with the callbacks that it makes at once left out: they are entered like all
others, each one stage after the other. -/
def NativeLibrary.deferred {σ : Type} (library : NativeLibrary σ) : NativeLibrary σ :=
  { library with execute := fun token text s => ([], (library.execute token text s).2) }

/-- Whether an action is one of callers or a single stage of an engine's callback. -/
def Action.isStaged {σ : Type} : Action σ → Bool
  | complete _ => false
  | resume .. => false
  | _ => true

/-- Whether a callback has its slot still before it. -/
def Stage.isPledged : Stage → Bool
  | looking => true
  | reading _ => true
  | freeing .. => true
  | leaving .. => true
  | retiring _ => true
  | _ => false

/-- The slot that a callback will retire. -/
def Task.pledge? (task : Task) : Option (Token × BridgeId) :=
  match task.work with
  | .callback callback stage =>
    if stage.isPledged then some (callback.context, task.engine) else none
  | .codec .. => none

namespace Exchange

variable {σ : Type} {libraries : BridgeId → NativeLibrary σ} {engines : BridgeId → EngineHandle}
  {x x' : Exchange σ} {calls : List Call} {hand : List Token} {held : BridgeId → Nat}

/-- The slots of requests that wait for their callbacks. -/
def awaited (x : Exchange σ) : List (Token × BridgeId) :=
  x.requests.map fun request => (request.token, request.bridge)

theorem Books.slot_unique {token : Token} {bridge : BridgeId} (h : Books engines x calls hand held)
    (found : x.arena.find? token = some bridge) (slot : Token × BridgeId) :
    x.arena.slots.count slot
      = (x.arena.slots.filter fun slot => slot.1 ≠ token).count slot
        + if slot = (token, bridge) then 1 else 0 := by
  have eq : (token, bridge) = slot ↔ slot = (token, bridge) := eq_comm
  rw [(h.slots_perm found).count_eq slot, List.count_cons]
  simp only [beq_iff_eq, eq]

theorem Books.slot_eq {token : Token} {bridge bridge' : BridgeId}
    (h : Books engines x calls hand held) (found : x.arena.find? token = some bridge)
    (slot : (token, bridge') ∈ x.arena.slots) : bridge' = bridge := by
  rcases List.mem_cons.1 ((h.slots_perm found).mem_iff.1 slot) with same | other
  · exact congrArg Prod.snd same
  · have := (List.mem_filter.1 other).2
    simp at this

/-- A request that is called back for waits no more. -/
theorem awaited_enter {token : Token} {bridge : BridgeId}
    (waits : (token, bridge) ∈ x.awaited) (slot : Token × BridgeId) :
    (x.enter token).awaited.count slot + (if slot = (token, bridge) then 1 else 0)
      ≤ x.awaited.count slot := by
  have sublist : (x.enter token).awaited.Sublist x.awaited :=
    List.Sublist.map (fun request : Request => (request.token, request.bridge)) List.filter_sublist
  by_cases same : slot = (token, bridge)
  · subst same
    have absent : (token, bridge) ∉ (x.enter token).awaited := by
      intro member
      obtain ⟨request, kept, same⟩ := List.mem_map.1 member
      have := (List.mem_filter.1 kept).2
      simp [(Prod.mk.inj same).1] at this
    have := List.count_pos_iff.2 waits
    rw [if_pos rfl, List.count_eq_zero.2 absent]
    omega
  · rw [if_neg same]
    exact sublist.count_le slot

/-- Pledges are kept: every slot that is awaited or in front of a callback is there. -/
def Keeps (x : Exchange σ) (pledges : List (Token × BridgeId)) : Prop :=
  ∀ slot, x.awaited.count slot + pledges.count slot ≤ x.arena.slots.count slot

theorem Keeps.same {pledges : List (Token × BridgeId)} (h : x.Keeps pledges)
    (slots : x'.arena.slots = x.arena.slots) (requests : x'.requests = x.requests) :
    x'.Keeps pledges := by
  intro slot
  rw [awaited, slots, requests]
  exact h slot

theorem Keeps.reorder {pledges pledges' : List (Token × BridgeId)} (h : x.Keeps pledges)
    (perm : pledges.Perm pledges') : x.Keeps pledges' := by
  intro slot
  rw [← perm.count_eq slot]
  exact h slot

theorem Keeps.handed {pledges : List (Token × BridgeId)} (h : x.Keeps pledges) (bridge : BridgeId)
    (text : CText) : (x.handed libraries bridge text).Keeps pledges := by
  intro slot
  have := h slot
  have awaits : (x.handed libraries bridge text).awaited = (x.arena.nextToken, bridge) :: x.awaited :=
    rfl
  have slots : (x.handed libraries bridge text).arena.slots
      = (x.arena.nextToken, bridge) :: x.arena.slots := rfl
  rw [awaits, slots, List.count_cons, List.count_cons]
  omega

theorem Keeps.drop {pledges : List (Token × BridgeId)} (h : x.Keeps pledges) (call : Call) :
    (x.drop call).Keeps pledges := by
  cases call <;> exact h.same rfl rfl

theorem Keeps.pollWithin {pledges : List (Token × BridgeId)} {limit : Option Duration}
    {passed : Bool} {call call' : Call} {progress : Progress} (h : x.Keeps pledges)
    (done : x.pollWithin (fun bridge => (libraries bridge).deferred) hand limit passed call
      = .ok (progress, call', x')) : x'.Keeps pledges :=
  -- a deferred library makes no callbacks of its own
  pollWithin_keeps (P := fun y => y.Keeps pledges) (fun call _ before => before.drop call)
    (fun bridge text before => before.handed bridge text)
    (fun _ _ _ member => absurd member List.not_mem_nil) h done

/-- The pledge of a callback at a stage. -/
def pledges (context : Token) (engine : BridgeId) : Option Stage → List (Token × BridgeId)
  | some stage => if stage.isPledged then [(context, engine)] else []
  | none => []

/-- A stage of a callback keeps pledges, and the callback holds no bridge but its engine's. -/
theorem Keeps.advance {callback : Callback} {stage : Stage} {next : Option Stage}
    {engine : BridgeId} {rest : List (Token × BridgeId)}
    (h : x.Keeps (pledges callback.context engine (some stage) ++ rest))
    (books : Books engines x calls hand held)
    (own : ∀ bridge, stage.bridge? = some bridge → bridge = engine)
    (done : x.advance libraries callback stage = .ok (next, x')) :
    x'.Keeps (pledges callback.context engine next ++ rest) ∧
      ∀ bridge, next.bind Stage.bridge? = some bridge → bridge = engine := by
  -- while the callback is pledged, the slot under its token is that of its engine
  have found_eq (pledged : stage.isPledged = true) {bridge : BridgeId}
      (found : x.arena.find? callback.context = some bridge) : bridge = engine := by
    have := h (callback.context, engine)
    simp only [pledges, if_pos pledged, List.cons_append, List.nil_append, List.count_cons_self] at this
    exact (books.slot_eq found (List.count_pos_iff.1 (by omega))).symm
  cases advance_ok done with
  | looks found =>
    exact ⟨h.same rfl rfl, fun b is => (Option.some.inj is).symm.trans (found_eq rfl found)⟩
  | reads read => exact ⟨h.same rfl rfl, own⟩
  | frees bridge buffer outcome => exact ⟨h.same rfl rfl, own⟩
  | leaves bridge outcome => exact ⟨h.same rfl rfl, fun b is => by simp [Stage.bridge?] at is⟩
  | @retires bridge y outcome taken =>
    obtain ⟨found, rfl⟩ := takeSlot_ok taken
    obtain rfl := found_eq rfl found
    refine ⟨fun slot => ?_, fun b is => (Option.some.inj is).symm⟩
    have before := h slot
    rw [books.slot_unique found slot] at before
    have eq : (callback.context, bridge) = slot ↔ slot = (callback.context, bridge) := eq_comm
    simp only [pledges, Stage.isPledged, if_true, List.cons_append, List.nil_append,
      List.count_cons, beq_iff_eq, eq] at before
    simp only [pledges, Stage.isPledged, Bool.false_eq_true, if_false, List.nil_append]
    simp only [awaited] at before ⊢
    omega
  | lowers bridge outcome => exact ⟨h.same rfl rfl, own⟩
  | sends bridge outcome =>
    exact ⟨h.same (by rw [send_arena]) (send_requests _ _ _), own⟩
  | closes bridge => exact ⟨h.same rfl rfl, fun b is => by simp [Stage.bridge?] at is⟩
  | returns => exact ⟨h.same rfl rfl, fun b is => by simp at is⟩

end Exchange

namespace World

variable {σ : Type} {libraries : BridgeId → NativeLibrary σ} {engines : BridgeId → EngineHandle}
  {w w' : World σ}

/-- Every callback that is entered finds its slot, and holds no bridge but its engine's. -/
structure Attended (w : World σ) : Prop where
  keeps : w.exchange.Keeps (w.tasks.filterMap Task.pledge?)
  own : ∀ task ∈ w.tasks, ∀ callback stage bridge, task.work = .callback callback stage →
    stage.bridge? = some bridge → bridge = task.engine

theorem initial_attended (native : σ) (engines : BridgeId → EngineHandle) :
    Attended (initial native engines) :=
  ⟨fun slot => by simp [Exchange.awaited, World.initial, Exchange.initial],
    fun _ member => absurd member List.not_mem_nil⟩

theorem pledge?_callback (thread : ThreadId) (engine : BridgeId) (callback : Callback)
    (stage : Stage) : (Task.mk thread engine (.callback callback stage)).pledge?.toList
      = Exchange.pledges callback.context engine (some stage) := by
  simp only [Task.pledge?, Exchange.pledges]
  split <;> rfl

theorem pledges_perm {place : Nat} {task : Task} (at_ : w.tasks[place]? = some task) :
    (w.tasks.filterMap Task.pledge?).Perm
      (task.pledge?.toList ++ (w.tasks.eraseIdx place).filterMap Task.pledge?) := by
  have := (perm_of_getElem? at_).filterMap Task.pledge?
  cases pledge : task.pledge? <;> simpa [pledge] using this

theorem pledges_set_perm {place : Nat} {task : Task} (at_ : w.tasks[place]? = some task)
    (task' : Task) : ((w.tasks.set place task').filterMap Task.pledge?).Perm
      (task'.pledge?.toList ++ (w.tasks.eraseIdx place).filterMap Task.pledge?) := by
  have := (set_perm_of_getElem? at_ task').filterMap Task.pledge?
  cases pledge : task'.pledge? <;> simpa [pledge] using this

theorem Attended.of_same_tasks (h : Attended w) (tasks : w'.tasks = w.tasks)
    (keeps : w'.exchange.Keeps (w.tasks.filterMap Task.pledge?)) : Attended w' :=
  ⟨tasks ▸ keeps, tasks ▸ h.own⟩

theorem Attended.enter {bridge : BridgeId} {callback : Callback} {native : σ}
    (h : Attended w) (waits : w.isOutstanding callback.context bridge = true) :
    Attended { w with
      exchange := { w.exchange with native := native }.enter callback.context
      tasks := ⟨callback.thread, bridge, .callback callback .looking⟩ :: w.tasks } := by
  refine ⟨fun slot => ?_, ?_⟩
  · -- the request that is called back for turns into the pledge of its callback
    obtain ⟨request, waits, same⟩ := List.any_eq_true.1 waits
    simp only [decide_eq_true_eq] at same
    have awaits : (callback.context, bridge) ∈ w.exchange.awaited :=
      List.mem_map.2 ⟨request, waits, by rw [same.1, same.2]⟩
    have entered := Exchange.awaited_enter awaits slot
    have kept := h.keeps slot
    have eq : (callback.context, bridge) = slot ↔ slot = (callback.context, bridge) := eq_comm
    have pledges : (((⟨callback.thread, bridge, .callback callback .looking⟩ : Task)
        :: w.tasks).filterMap Task.pledge?).count slot
        = (w.tasks.filterMap Task.pledge?).count slot
          + if slot = (callback.context, bridge) then 1 else 0 := by
      simp only [List.filterMap_cons, Task.pledge?, Stage.isPledged, if_true, List.count_cons,
        beq_iff_eq, eq]
    rw [pledges]
    simp only [Exchange.enter, Exchange.awaited] at entered kept ⊢
    omega
  · intro task member callback' stage bridge' is holds
    rcases List.mem_cons.1 member with rfl | old
    · obtain ⟨-, rfl⟩ := Work.callback.inj is
      simp [Stage.bridge?] at holds
    · exact h.own task old callback' stage bridge' is holds

/-- The stages of a callback: what it pledges is kept, and it holds its engine's bridge only. -/
theorem Attended.advances {place : Nat} {thread : ThreadId} {engine : BridgeId}
    {callback : Callback} {stage next : Stage} {x : Exchange σ} (h : Attended w)
    (sound : Sound engines w)
    (at_ : w.tasks[place]? = some ⟨thread, engine, .callback callback stage⟩)
    (advanced : w.exchange.advance libraries callback stage = .ok (some next, x)) :
    Attended { w with
      exchange := x
      tasks := w.tasks.set place ⟨thread, engine, .callback callback next⟩ } := by
  have keeps := h.keeps.reorder (pledges_perm at_)
  rw [pledge?_callback] at keeps
  have own := h.own _ (List.mem_of_getElem? at_) callback stage
  obtain ⟨keeps', own'⟩ := keeps.advance sound (fun b => own b rfl) advanced
  rw [← pledge?_callback thread] at keeps'
  refine ⟨keeps'.reorder (pledges_set_perm at_ _).symm, ?_⟩
  intro task member
  rcases List.mem_or_eq_of_mem_set member with old | rfl
  · exact h.own task old
  · intro callback' stage' bridge is holds
    obtain ⟨-, rfl⟩ := Work.callback.inj is
    exact own' bridge holds

theorem Attended.returns {place : Nat} {thread : ThreadId} {engine : BridgeId}
    {callback : Callback} {stage : Stage} {x : Exchange σ} (h : Attended w)
    (sound : Sound engines w)
    (at_ : w.tasks[place]? = some ⟨thread, engine, .callback callback stage⟩)
    (advanced : w.exchange.advance libraries callback stage = .ok (none, x)) :
    Attended { w with exchange := x, tasks := w.tasks.eraseIdx place } := by
  have keeps := h.keeps.reorder (pledges_perm at_)
  rw [pledge?_callback] at keeps
  have own := h.own _ (List.mem_of_getElem? at_) callback stage
  exact ⟨(keeps.advance sound (fun b => own b rfl) advanced).1,
    fun task member => h.own task (List.mem_of_mem_eraseIdx member)⟩

theorem step_attended {action : Action σ} {answer : Answer} (h : Attended w)
    (sound : Sound engines w) (staged : action.isStaged = true)
    (done : w.step (fun bridge => (libraries bridge).deferred) action = .ok (answer, w')) :
    Attended w' := by
  cases step_ok done with
  | poll at_ polled => exact h.of_same_tasks rfl (h.keeps.pollWithin polled)
  | drop at_ => exact h.of_same_tasks rfl (h.keeps.drop _)
  | complete completed => simp [Action.isStaged] at staged
  | resume resumes => simp [Action.isStaged] at staged
  | enter idle waits => exact h.enter waits
  | call idle able =>
    refine ⟨h.keeps.same rfl rfl, ?_⟩
    intro task member
    rcases List.mem_cons.1 member with rfl | old
    · intro callback' stage' bridge is
      simp at is
    · exact h.own task old
  | returns at_ advanced => exact h.returns sound at_ advanced
  | advances at_ advanced => exact h.advances sound at_ advanced
  | answers at_ =>
    exact ⟨(h.keeps.reorder (pledges_perm at_)).same rfl rfl,
      fun task member => h.own task (List.mem_of_mem_eraseIdx member)⟩
  | @continues place thread engine codec stage at_ more =>
    have keeps := (h.keeps.reorder (pledges_perm at_)).reorder (pledges_set_perm at_
      ⟨thread, engine, .codec codec
        ((libraries engine).advanceCodec thread codec stage w.exchange.native).1⟩).symm
    refine ⟨keeps.same rfl rfl, ?_⟩
    intro task member
    rcases List.mem_or_eq_of_mem_set member with old | rfl
    · exact h.own task old
    · intro callback' stage' bridge is
      simp at is
  | _ => exact h.of_same_tasks rfl (h.keeps.same rfl rfl)

theorem run_attended {actions : List (Action σ)} {answers : List Answer} (h : Attended w)
    (sound : Sound engines w) (all : ∀ action ∈ actions, action.isStaged = true)
    (ran : run (fun bridge => (libraries bridge).deferred) actions w = .ok (answers, w')) :
    Attended w' := by
  have keeps {w w' : World σ} {action : Action σ} {answer : Answer}
      (h : Attended w ∧ Sound engines w) (staged : action.isStaged = true)
      (stepped : w.step (fun bridge => (libraries bridge).deferred) action = .ok (answer, w')) :
      Attended w' ∧ Sound engines w' :=
    ⟨step_attended h.1 h.2 staged stepped, step_sound h.2 stepped⟩
  exact (run_induction keeps ⟨h, sound⟩ all ran).1

/-! ## While a callback is inside -/

/-- Whether the engine of a bridge is inside a callback, which does a stage next. -/
def Inside (w : World σ) (bridge : BridgeId) (stage : Stage) : Prop :=
  ∃ task ∈ w.tasks, task.engine = bridge ∧ ∃ callback, task.work = .callback callback stage

/-- Whether the last owner of a bridge is gone, and its library with it. -/
def IsUnloaded (w : World σ) (bridge : BridgeId) : Prop := (w.exchange.bridges bridge).owners = 0

/-- A callback that does not merely return has its library, by its slot or by its hand. -/
theorem Attended.refers (h : Attended w) {bridge : BridgeId} {stage : Stage}
    (inside : w.Inside bridge stage) (unfinished : stage ≠ .returning) : w.Refers bridge := by
  obtain ⟨task, member, rfl, callback, work⟩ := inside
  have pledged (front : stage.isPledged = true) : w.Refers task.engine := by
    have pledge : (callback.context, task.engine) ∈ w.tasks.filterMap Task.pledge? := by
      refine List.mem_filterMap.2 ⟨task, member, ?_⟩
      simp [Task.pledge?, work, front]
    have counted := List.count_pos_iff.2 pledge
    have kept := h.keeps (callback.context, task.engine)
    have slot : 0 < w.exchange.arena.slots.count (callback.context, task.engine) := by omega
    exact .inr (.inr (.inl ⟨_, List.count_pos_iff.1 slot, rfl⟩))
  have holds (bridge : BridgeId) (holds : stage.bridge? = some bridge) : w.Refers task.engine := by
    refine .inr (.inr (.inr ⟨task, member, ?_⟩))
    have own := h.own task member callback stage bridge work holds
    simp [Task.bridge?, work, holds, own]
  cases stage with
  | lowering bridge outcome => exact holds bridge rfl
  | sending bridge outcome => exact holds bridge rfl
  | closing bridge => exact holds bridge rfl
  | returning => exact absurd rfl unfinished
  | _ => exact pledged rfl

/-- **When a library is unloaded under its own callback.**  It is exactly when the callback has
only its return before it and neither a handle nor a future, a slot or a task refers to the
bridge; then the engine has been freed, and before then not. -/
theorem unloaded_inside_iff (libraries : BridgeId → NativeLibrary σ) (native : σ)
    (engines : BridgeId → EngineHandle)
    (actions : List (Action σ)) (answers : List Answer) (w : World σ)
    (staged : ∀ action ∈ actions, action.isStaged = true)
    (ran : run (fun bridge => (libraries bridge).deferred) actions (initial native engines)
      = .ok (answers, w)) (bridge : BridgeId) (stage : Stage) (inside : w.Inside bridge stage) :
    (w.IsUnloaded bridge ↔ stage = .returning ∧ ¬ w.Refers bridge) ∧
      (w.IsUnloaded bridge →
        (w.exchange.bridges bridge).frees = (engines bridge).toFree.toList) ∧
      (¬ w.IsUnloaded bridge → (w.exchange.bridges bridge).frees = []) := by
  have sound := run_sound (initial_sound native engines) ran
  have attended := run_attended (initial_attended native engines) (initial_sound native engines)
    staged ran
  have unloaded : w.IsUnloaded bridge ↔ ¬ w.Refers bridge := by
    rw [sound.refers_iff, IsUnloaded]
    omega
  refine ⟨?_, ?_, ?_⟩
  · rw [unloaded]
    constructor
    · intro unreferred
      refine ⟨?_, unreferred⟩
      by_contra unfinished
      exact unreferred (attended.refers inside unfinished)
    · exact fun h => h.2
  · intro gone
    exact (sound.frees_eq bridge).2 (unloaded.1 gone)
  · intro still
    exact (sound.frees_eq bridge).1 (not_not.1 fun unreferred => still (unloaded.2 unreferred))

/-- A call and the handle are dropped, and then the callback goes on until its return. -/
def lastOwner : List (Action Script) :=
  [.start 0 "request" none, .poll 0 false, .drop 0, .letGo 0,
    .enter 0 ⟨5, 1, .invalidArgument, none⟩ .empty]
    ++ List.replicate 8 (.advance 0)

theorem unloaded_inside_iff_lastOwner : ∃ answers w,
    run (fun _ => Script.library.deferred) lastOwner (initial .empty fun _ => .owned 7)
        = .ok (answers, w) ∧
      w.Inside 0 .returning ∧ w.IsUnloaded 0 ∧ ¬ w.Refers 0 := by
  refine ⟨_, _, rfl, ⟨_, List.mem_singleton.2 rfl, rfl, _, rfl⟩, rfl, ?_⟩
  have exactly := unloaded_inside_iff (fun _ => Script.library) .empty (fun _ => .owned 7)
    lastOwner _ _ (by decide) rfl 0 .returning ⟨_, List.mem_singleton.2 rfl, rfl, _, rfl⟩
  exact (exactly.1.1 rfl).2

/-- A library may be unloaded while its engine is inside a callback. -/
theorem unloading_waits_for_no_callback :
    ¬ ∀ (actions : List (Action Script)) (answers : List Answer) (w : World Script),
      (∀ action ∈ actions, action.isStaged = true) →
      run (fun _ => Script.library.deferred) actions (initial .empty fun _ => .owned 7)
        = .ok (answers, w) →
      ∀ bridge stage, w.Inside bridge stage → (w.exchange.bridges bridge).frees = [] := by
  intro never
  have freed := never lastOwner _ _ (by decide) rfl 0 .returning
    ⟨_, List.mem_singleton.2 rfl, rfl, _, rfl⟩
  exact absurd freed (by decide)

end World

end EngineBridge
