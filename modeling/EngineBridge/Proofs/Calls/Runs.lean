import EngineBridge.Proofs.Basic
import EngineBridge.Proofs.Calls.Steps
/-!
# Runs keep the books

`World.Sound` says that the books are right for what the world has: its futures are the calls,
the slots in the hand of its callbacks are the tokens in hand, and a bridge is held by its
handles and by tasks.  `step_sound` is the lemma for one action, `run_sound` the one for runs.
-/

namespace EngineBridge

/-- What stands at a place of a list, and everything else. -/
theorem perm_of_getElem? {α : Type} {l : List α} {place : Nat} {a : α}
    (h : l[place]? = some a) : l.Perm (a :: l.eraseIdx place) := by
  obtain ⟨bound, rfl⟩ := List.getElem?_eq_some_iff.1 h
  exact (List.getElem_cons_eraseIdx_perm bound).symm

/-- What is put at a place of a list, and everything else. -/
theorem set_perm_of_getElem? {α : Type} {l : List α} {place : Nat} {a : α}
    (h : l[place]? = some a) (b : α) : (l.set place b).Perm (b :: l.eraseIdx place) := by
  obtain ⟨bound, -⟩ := List.getElem?_eq_some_iff.1 h
  exact List.set_perm_cons_eraseIdx bound b

/-- The bridge that a task holds. -/
def Task.bridge? (task : Task) : Option BridgeId :=
  match task.work with
  | .callback _ stage => stage.bridge?
  | .codec .. => some task.engine

theorem Work.inHand?_callback (callback : Callback) (stage : Stage) :
    (Work.callback callback stage).inHand? = stage.inHand? callback.context := by
  cases stage <;> rfl

namespace World

variable {σ : Type} {libraries : BridgeId → NativeLibrary σ} {engines : BridgeId → EngineHandle}
  {w w' : World σ}

/-- How many handles and tasks hold a bridge. -/
def held (w : World σ) (bridge : BridgeId) : Nat :=
  w.handles bridge + (w.tasks.filterMap Task.bridge?).count bridge

/-- The calls of the futures. -/
def calls (w : World σ) : List Call := w.futures.map Future.call

/-- The books of the exchange are right for the world around it. -/
def Sound (engines : BridgeId → EngineHandle) (w : World σ) : Prop :=
  w.exchange.Books engines w.calls w.inHand w.held

theorem initial_sound (native : σ) (engines : BridgeId → EngineHandle) :
    Sound engines (initial native engines) :=
  (Exchange.Books.initial native engines).reorder (.refl _) (.refl _) fun b => by
    simp [held, World.initial]

/-! ## The parts of a world -/

theorem calls_perm {place : Nat} {future : Future} (at_ : w.futures[place]? = some future) :
    w.calls.Perm (future.call :: (w.futures.eraseIdx place).map Future.call) :=
  (perm_of_getElem? at_).map Future.call

theorem calls_set_perm {place : Nat} {future : Future} (at_ : w.futures[place]? = some future)
    (call : Call) : ((w.futures.set place { future with call := call }).map Future.call).Perm
      (call :: (w.futures.eraseIdx place).map Future.call) :=
  (set_perm_of_getElem? at_ { future with call := call }).map Future.call

theorem Sound.at_future {place : Nat} {future : Future} (h : Sound engines w)
    (at_ : w.futures[place]? = some future) :
    w.exchange.Books engines (future.call :: (w.futures.eraseIdx place).map Future.call)
      w.inHand w.held := h.reorder (calls_perm at_) (.refl _) fun _ => rfl

/-- The books without one task, next to what the task holds. -/
theorem Sound.at_task {place : Nat} {task : Task} (h : Sound engines w)
    (at_ : w.tasks[place]? = some task) :
    w.exchange.Books engines w.calls
      (task.work.inHand?.toList ++ (w.tasks.eraseIdx place).filterMap fun task => task.work.inHand?)
      (bumpAny (fun b => w.handles b + ((w.tasks.eraseIdx place).filterMap Task.bridge?).count b)
        task.bridge?) := by
  refine h.reorder (.refl _) ?_ fun b => ?_
  · have := (perm_of_getElem? at_).filterMap fun task => task.work.inHand?
    cases inHand : task.work.inHand? <;> simpa [inHand, World.inHand] using this
  · have := ((perm_of_getElem? at_).filterMap Task.bridge?).count_eq b
    rw [bumpAny_apply, held, this]
    cases bridge : task.bridge? <;> simp [bridge, List.count_cons, Nat.add_assoc]

/-- The books with a task at a place, from the books next to what it holds. -/
theorem Sound.set_task {place : Nat} {task task' : Task} {x : Exchange σ}
    (at_ : w.tasks[place]? = some task)
    (h : x.Books engines w.calls
      (task'.work.inHand?.toList
        ++ (w.tasks.eraseIdx place).filterMap fun task => task.work.inHand?)
      (bumpAny (fun b => w.handles b + ((w.tasks.eraseIdx place).filterMap Task.bridge?).count b)
        task'.bridge?)) :
    Sound engines { w with exchange := x, tasks := w.tasks.set place task' } := by
  refine h.reorder (.refl _) ?_ fun b => ?_
  · have := (set_perm_of_getElem? at_ task').filterMap fun task => task.work.inHand?
    cases inHand : task'.work.inHand? <;> simpa [inHand, World.inHand] using this.symm
  · have := ((set_perm_of_getElem? at_ task').filterMap Task.bridge?).count_eq b
    rw [bumpAny_apply, held, this]
    cases bridge : task'.bridge? <;> simp [bridge, List.count_cons, Nat.add_assoc]

theorem Sound.erase_task {place : Nat} {x : Exchange σ}
    (h : x.Books engines w.calls
      ((w.tasks.eraseIdx place).filterMap fun task => task.work.inHand?)
      (fun b => w.handles b + ((w.tasks.eraseIdx place).filterMap Task.bridge?).count b)) :
    Sound engines { w with exchange := x, tasks := w.tasks.eraseIdx place } := h

theorem Sound.cons_task {task : Task} {x : Exchange σ} (idle : task.work.inHand? = none)
    (h : x.Books engines w.calls w.inHand (bumpAny w.held task.bridge?)) :
    Sound engines { w with exchange := x, tasks := task :: w.tasks } := by
  refine h.reorder (.refl _) ?_ fun b => ?_
  · simp [World.inHand, idle]
  · rw [bumpAny_apply, held, held]
    cases bridge : task.bridge? <;> simp [bridge, List.count_cons, Nat.add_assoc]

/-! ## One action -/

/-- What an action does. -/
inductive Steps (libraries : BridgeId → NativeLibrary σ) (w : World σ) :
    Action σ → Answer → World σ → Prop where
  | clone {bridge : BridgeId} (able : 0 < w.handles bridge) :
    Steps libraries w (.clone bridge) .done
      { w with
        exchange := w.exchange.retain bridge
        handles := setAt w.handles bridge (w.handles bridge + 1) }
  | letGo {bridge : BridgeId} (able : 0 < w.handles bridge) :
    Steps libraries w (.letGo bridge) .done
      { w with
        exchange := w.exchange.release bridge
        handles := setAt w.handles bridge (w.handles bridge - 1) }
  | start {bridge : BridgeId} {request : String} {limit : Option Duration}
    (able : 0 < w.handles bridge) :
    Steps libraries w (.start bridge request limit) .done
      { w with
        exchange := w.exchange.retain bridge
        futures := w.futures ++ [⟨bridge, request, limit, .unstarted bridge request⟩] }
  | poll {place : Nat} {passed : Bool} {future : Future} {progress : Progress} {call : Call}
    {x : Exchange σ} (at_ : w.futures[place]? = some future)
    (polled : w.exchange.pollWithin libraries w.inHand future.limit passed future.call
      = .ok (progress, call, x)) :
    Steps libraries w (.poll place passed) (.progress progress)
      { w with exchange := x, futures := w.futures.set place { future with call := call } }
  | drop {place : Nat} {future : Future} (at_ : w.futures[place]? = some future) :
    Steps libraries w (.drop place) .done
      { w with
        exchange := w.exchange.drop future.call
        futures := w.futures.set place { future with call := .gone } }
  | complete {callback : Callback} {x : Exchange σ}
    (completed : w.exchange.complete libraries callback = .ok x) :
    Steps libraries w (.complete callback) .done { w with exchange := x }
  | resume {token : Token} {outcome : Outcome} {result : Except Violation Resumed}
    {x : Exchange σ} (resumes : w.exchange.resume token outcome = (result, x)) :
    Steps libraries w (.resume token outcome) (.resumed result) { w with exchange := x }
  | work (native : σ) :
    Steps libraries w (.work native) .done { w with exchange := { w.exchange with native := native } }
  | enter {bridge : BridgeId} {callback : Callback} {native : σ}
    (idle : w.isIdle callback.thread = true)
    (waits : w.isOutstanding callback.context bridge = true) :
    Steps libraries w (.enter bridge callback native) .done
      { w with
        exchange := { w.exchange with native := native }.enter callback.context
        tasks := ⟨callback.thread, bridge, .callback callback .looking⟩ :: w.tasks }
  | call {thread : ThreadId} {bridge : BridgeId} {codec : CodecCall}
    (idle : w.isIdle thread = true) (able : 0 < w.handles bridge) :
    Steps libraries w (.call thread bridge codec) .done
      { w with
        exchange := Exchange.retain bridge
          { w.exchange with
            native := ((libraries bridge).beginCodec thread codec w.exchange.native).2 }
        tasks := ⟨thread, bridge, .codec codec
          ((libraries bridge).beginCodec thread codec w.exchange.native).1⟩ :: w.tasks }
  /-- A callback returns. -/
  | returns {place : Nat} {thread : ThreadId} {engine : BridgeId} {callback : Callback}
    {stage : Stage} {x : Exchange σ}
    (at_ : w.tasks[place]? = some ⟨thread, engine, .callback callback stage⟩)
    (advanced : w.exchange.advance libraries callback stage = .ok (none, x)) :
    Steps libraries w (.advance place) .done
      { w with exchange := x, tasks := w.tasks.eraseIdx place }
  /-- A callback goes on. -/
  | advances {place : Nat} {thread : ThreadId} {engine : BridgeId} {callback : Callback}
    {stage next : Stage} {x : Exchange σ}
    (at_ : w.tasks[place]? = some ⟨thread, engine, .callback callback stage⟩)
    (advanced : w.exchange.advance libraries callback stage = .ok (some next, x)) :
    Steps libraries w (.advance place) .done
      { w with
        exchange := x
        tasks := w.tasks.set place ⟨thread, engine, .callback callback next⟩ }
  /-- A codec call is finished. -/
  | answers {place : Nat} {thread : ThreadId} {engine : BridgeId} {codec : CodecCall}
    {result : CodecResult}
    (at_ : w.tasks[place]? = some ⟨thread, engine, .codec codec (.freeing [] result)⟩) :
    Steps libraries w (.advance place) (.codec result)
      { w with exchange := w.exchange.release engine, tasks := w.tasks.eraseIdx place }
  /-- A codec call goes on. -/
  | continues {place : Nat} {thread : ThreadId} {engine : BridgeId} {codec : CodecCall}
    {stage : CodecStage}
    (at_ : w.tasks[place]? = some ⟨thread, engine, .codec codec stage⟩)
    (more : ∀ result, stage ≠ .freeing [] result) :
    Steps libraries w (.advance place) .done
      { w with
        exchange :=
          { w.exchange with
            native := ((libraries engine).advanceCodec thread codec stage w.exchange.native).2 }
        tasks := w.tasks.set place ⟨thread, engine, .codec codec
          ((libraries engine).advanceCodec thread codec stage w.exchange.native).1⟩ }

theorem poll_ok {place : Nat} {passed : Bool} {answer : Answer}
    (done : w.poll libraries place passed = .ok (answer, w')) :
    Steps libraries w (.poll place passed) answer w' := by
  unfold World.poll at done
  split at done
  · simp at done
  · rename_i future at_
    split at done
    · simp at done
    · rename_i progress call x polled
      cases done
      exact .poll at_ polled

theorem advance_ok {place : Nat} {answer : Answer}
    (done : w.advance libraries place = .ok (answer, w')) :
    Steps libraries w (.advance place) answer w' := by
  unfold World.advance at done
  split at done
  · simp at done
  · rename_i at_
    split at done
    · simp at done
    · rename_i advanced
      cases done
      exact .returns at_ advanced
    · rename_i advanced
      cases done
      exact .advances at_ advanced
  · rename_i at_
    cases done
    exact .answers at_
  · rename_i more at_
    cases done
    exact .continues at_ fun result => more result

/-- **What a step can do**, one case for each action. -/
theorem step_ok {action : Action σ} {answer : Answer}
    (done : w.step libraries action = .ok (answer, w')) : Steps libraries w action answer w' := by
  cases action with
  | poll place passed => exact poll_ok done
  | drop place =>
    simp only [step, World.drop] at done
    split at done
    · simp at done
    · rename_i at_
      cases done
      exact .drop at_
  | complete callback =>
    simp only [step] at done
    split at done
    · simp at done
    · rename_i completed
      cases done
      exact .complete completed
  | resume token outcome =>
    simp only [step, Except.ok.injEq, Prod.mk.injEq] at done
    obtain ⟨rfl, rfl⟩ := done
    exact .resume rfl
  | work native =>
    simp only [step, Except.ok.injEq, Prod.mk.injEq] at done
    obtain ⟨rfl, rfl⟩ := done
    exact .work native
  | enter bridge callback native =>
    simp only [step, World.enter] at done
    split at done
    · rename_i able
      cases done
      exact .enter able.1 able.2
    · simp at done
  | call thread bridge codec =>
    simp only [step, World.call] at done
    split at done
    · rename_i able
      cases done
      exact .call able.1 able.2
    · simp at done
  | advance place => exact advance_ok done
  | _ =>
    simp only [step] at done
    split at done
    · rename_i able
      cases done
      constructor
      exact able
    · simp at done

/-- A callback that goes on keeps the books. -/
theorem Sound.advances {place : Nat} {thread : ThreadId} {engine : BridgeId} {callback : Callback}
    {stage next : Stage} {x : Exchange σ} (h : Sound engines w)
    (at_ : w.tasks[place]? = some ⟨thread, engine, .callback callback stage⟩)
    (advanced : w.exchange.advance libraries callback stage = .ok (some next, x)) :
    Sound engines { w with
      exchange := x
      tasks := w.tasks.set place ⟨thread, engine, .callback callback next⟩ } := by
  have before := h.at_task at_
  rw [Work.inHand?_callback] at before
  refine Sound.set_task at_ ?_
  rw [Work.inHand?_callback]
  exact before.advance advanced

theorem Sound.returns {place : Nat} {thread : ThreadId} {engine : BridgeId} {callback : Callback}
    {stage : Stage} {x : Exchange σ} (h : Sound engines w)
    (at_ : w.tasks[place]? = some ⟨thread, engine, .callback callback stage⟩)
    (advanced : w.exchange.advance libraries callback stage = .ok (none, x)) :
    Sound engines { w with exchange := x, tasks := w.tasks.eraseIdx place } := by
  have before := h.at_task at_
  rw [Work.inHand?_callback] at before
  exact Sound.erase_task (before.advance advanced)

/-- **One action keeps the books.** -/
theorem step_sound {action : Action σ} {answer : Answer} (h : Sound engines w)
    (done : w.step libraries action = .ok (answer, w')) : Sound engines w' := by
  cases step_ok done with
  | @clone bridge able =>
    have alive := h.alive bridge (by simp only [held]; omega)
    refine (h.retain alive).reorder (.refl _) (.refl _) ?_
    intro b
    by_cases hb : b = bridge
    · subst hb; simp only [bump_apply, held, setAt_apply, if_true]; omega
    · simp [bump_apply, held, hb]
  | @letGo bridge able =>
    refine (h.reorder (.refl _) (.refl _) fun b => ?_).release
    by_cases hb : b = bridge
    · subst hb; simp only [bump_apply, held, setAt_apply, if_true]; omega
    · simp [bump_apply, held, hb]
  | @start bridge request limit able =>
    have alive := h.alive bridge (by simp only [held]; omega)
    have more : (w.exchange.retain bridge).Books engines (.unstarted bridge request :: w.calls)
        w.inHand w.held := Exchange.Books.unstarted_iff.2 (h.retain alive)
    refine more.reorder ?_ (.refl _) fun _ => rfl
    simpa [World.calls] using (List.perm_append_singleton _ _).symm
  | @poll _ _ _ _ call _ at_ polled =>
    exact ((h.at_future at_).pollWithin polled).reorder (calls_set_perm at_ call).symm (.refl _)
      fun _ => rfl
  | drop at_ =>
    exact (Exchange.Books.gone_iff.2 (h.at_future at_).drop).reorder
      (calls_set_perm at_ .gone).symm (.refl _) fun _ => rfl
  | complete completed => exact Exchange.Books.complete h completed
  | @resume _ _ result _ resumes =>
    cases result with
    | error violation => exact Exchange.resume_error resumes ▸ h
    | ok resumed => exact Exchange.Books.resume h resumes
  | work native => exact Exchange.Books.native h native
  | enter idle waits => exact Sound.cons_task rfl ((Exchange.Books.native h _).enter _)
  | @call _ bridge _ idle able =>
    have alive := h.alive bridge (by simp only [held]; omega)
    exact Sound.cons_task rfl ((Exchange.Books.native h _).retain alive)
  | returns at_ advanced => exact h.returns at_ advanced
  | advances at_ advanced => exact h.advances at_ advanced
  | answers at_ => exact Sound.erase_task (h.at_task at_).release
  | continues at_ more => exact Sound.set_task at_ ((h.at_task at_).native _)

/-- Where an action may end the process. -/
inductive Aborts (libraries : BridgeId → NativeLibrary σ) (w : World σ) (violation : Violation) :
    Action σ → Prop where
  | poll {place : Nat} {passed : Bool} {future : Future} (at_ : w.futures[place]? = some future)
    (failed : w.exchange.pollWithin libraries w.inHand future.limit passed future.call
      = .error violation) : Aborts libraries w violation (.poll place passed)
  | complete {callback : Callback}
    (failed : w.exchange.complete libraries callback = .error violation) :
    Aborts libraries w violation (.complete callback)
  | advance {place : Nat} {thread : ThreadId} {engine : BridgeId} {callback : Callback}
    {stage : Stage} (at_ : w.tasks[place]? = some ⟨thread, engine, .callback callback stage⟩)
    (failed : w.exchange.advance libraries callback stage = .error violation) :
    Aborts libraries w violation (.advance place)

theorem step_aborts {action : Action σ} {violation : Violation}
    (failed : w.step libraries action = .error (.violation violation)) :
    Aborts libraries w violation action := by
  cases action with
  | poll place passed =>
    simp only [step, World.poll] at failed
    split at failed
    · simp at failed
    · rename_i at_
      split at failed
      · rename_i polled
        simp only [Except.error.injEq, Halt.violation.injEq] at failed
        exact .poll at_ (failed ▸ polled)
      · simp at failed
  | complete callback =>
    simp only [step] at failed
    split at failed
    · rename_i faulted
      simp only [Except.error.injEq, Halt.violation.injEq] at failed
      exact .complete (failed ▸ faulted)
    · simp at failed
  | advance place =>
    simp only [step, World.advance] at failed
    split at failed
    · simp at failed
    · rename_i at_
      split at failed
      · rename_i faulted
        simp only [Except.error.injEq, Halt.violation.injEq] at failed
        exact .advance at_ (failed ▸ faulted)
      · simp at failed
      · simp at failed
    · simp at failed
    · simp at failed
  | drop place =>
    simp only [step, World.drop] at failed
    split at failed <;> simp at failed
  | enter bridge callback native =>
    simp only [step, World.enter] at failed
    split at failed <;> simp at failed
  | call thread bridge codec =>
    simp only [step, World.call] at failed
    split at failed <;> simp at failed
  | resume token outcome => simp [step] at failed
  | work native => simp [step] at failed
  | _ =>
    simp only [step] at failed
    split at failed <;> simp at failed

theorem isRun (libraries : BridgeId → NativeLibrary σ) :
    IsRun (step libraries) (run libraries) where
  nil _ := rfl
  cons action actions w := by
    rw [run]
    rcases step libraries action w with halt | ⟨answer, next⟩
    · rfl
    · simp only [bind, Except.bind]
      cases run libraries actions next <;> rfl

/-- What an action keeps, a run keeps. -/
theorem run_induction {P : World σ → Prop} {allowed : Action σ → Prop}
    (keeps : ∀ {w w' : World σ} {action answer}, P w → allowed action →
      w.step libraries action = .ok (answer, w') → P w')
    {actions : List (Action σ)} {answers : List Answer} (h : P w)
    (all : ∀ action ∈ actions, allowed action)
    (ran : run libraries actions w = .ok (answers, w')) : P w' :=
  (isRun libraries).keeps keeps h all ran

/-- **Every run keeps the books.** -/
theorem run_sound {actions : List (Action σ)} {answers : List Answer} (h : Sound engines w)
    (ran : run libraries actions w = .ok (answers, w')) : Sound engines w' :=
  run_induction (fun h (_ : True) stepped => step_sound h stepped) h
    (fun _ _ => trivial) ran

end World

end EngineBridge
