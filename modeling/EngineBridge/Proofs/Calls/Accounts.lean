import EngineBridge.Calls.Traffic
import EngineBridge.Proofs.Calls.Outcomes
import EngineBridge.Proofs.Native.Accounts
/-!
# The accounts of a service

`Service.Accounted` ties what the engine's counters say to what has crossed to it, whoever has done
what.  A detail waits in the place of a thread that is about to take it; a buffer is in the hand of
a thread or held by a caller; a request that has not ended is a job.  And a bridge has as many
calls in flight as it has slots, and slots that a callback holds and has not counted off.

When no call is in flight there is no job, and no callback has anything left to take or to give
back.
-/

namespace EngineBridge

theorem flatMap_perm_of_getElem? {α β : Type} {l : List α} {place : Nat} {a : α}
    (at_ : l[place]? = some a) (f : α → List β) :
    (l.flatMap f).Perm (f a ++ (l.eraseIdx place).flatMap f) :=
  (perm_of_getElem? at_).flatMap_right f

theorem flatMap_set_perm_of_getElem? {α β : Type} {l : List α} {place : Nat} {a : α}
    (at_ : l[place]? = some a) (b : α) (f : α → List β) :
    ((l.set place b).flatMap f).Perm (f b ++ (l.eraseIdx place).flatMap f) :=
  (set_perm_of_getElem? at_ b).flatMap_right f

/-! ## Calls in flight -/

/-- The bridge whose count a callback is about to lower. -/
def Stage.lowers : Stage → List BridgeId
  | lowering bridge _ => [bridge]
  | _ => []

namespace Task

/-- The bridge whose count a task is about to lower. -/
def lowers (task : Task) : List BridgeId :=
  match task.work with
  | .callback _ stage => stage.lowers
  | .codec .. => []

/-- The thread that has a detail to take, if the task is before that. -/
def owing (task : Task) : List ThreadId :=
  match task.work with
  | .callback callback stage => stage.owing callback
  | .codec _ stage => stage.owing task.thread

/-- The buffers in the hand of a task. -/
def out (task : Task) : List Buffer :=
  match task.work with
  | .callback _ stage => stage.out
  | .codec _ stage => stage.out

end Task

namespace Exchange

variable {σ : Type} {libraries : BridgeId → NativeLibrary σ} {engines : BridgeId → EngineHandle}
  {x x' : Exchange σ} {calls : List Call} {hand : List Token} {held : BridgeId → Nat}
  {lowers lowers' : List BridgeId}

/-- The calls in flight are those with a slot, and those that are counted without one: their slot is
yet to be put in, or was retired and their count is about to be lowered. -/
def Flies (x : Exchange σ) (lowers : List BridgeId) : Prop :=
  ∀ bridge, x.arena.inFlight bridge = x.slotBridges.count bridge + lowers.count bridge

theorem Flies.same (h : x.Flies lowers) (arena : x'.arena = x.arena) : x'.Flies lowers := by
  intro bridge
  rw [slotBridges, arena]
  exact h bridge

theorem Flies.reorder (h : x.Flies lowers) (perm : lowers.Perm lowers') : x.Flies lowers' := by
  intro bridge
  rw [← perm.count_eq bridge]
  exact h bridge

/-- A call is counted before its slot is there. -/
theorem Flies.raise (h : x.Flies lowers) (bridge : BridgeId) :
    (x.raise bridge).Flies (bridge :: lowers) := by
  intro b
  have before := h b
  have eq : bridge = b ↔ b = bridge := eq_comm
  have counts : (x.raise bridge).arena.inFlight = bump x.arena.inFlight bridge := rfl
  have slots : (x.raise bridge).slotBridges = x.slotBridges := rfl
  rw [counts, slots, bump_apply, List.count_cons]
  simp only [beq_iff_eq, eq]
  omega

/-- The slot of a call that is counted is put in. -/
theorem Flies.insertSlot {bridge : BridgeId} (h : x.Flies (bridge :: lowers)) (token : Token) :
    (x.insertSlot token bridge).Flies lowers := by
  intro b
  have before := h b
  have counts : (x.insertSlot token bridge).arena.inFlight = x.arena.inFlight := rfl
  have slots : (x.insertSlot token bridge).slotBridges = bridge :: x.slotBridges := rfl
  rw [List.count_cons] at before
  rw [counts, slots, List.count_cons]
  omega

theorem Flies.handed (h : x.Flies lowers) (bridge : BridgeId) (text : CText) :
    (x.handed libraries bridge text).Flies lowers := by
  have issued : (x.issue bridge).2.Flies lowers := h
  exact (issued.raise bridge).insertSlot x.arena.nextToken

/-- A slot is retired, and its count is still to be lowered. -/
theorem Flies.takeSlot {token : Token} {bridge : BridgeId} (h : x.Flies lowers)
    (unique : x.tokens.count token ≤ 1) (taken : x.takeSlot token = .ok (bridge, x')) :
    x'.Flies (bridge :: lowers) := by
  obtain ⟨found, rfl⟩ := takeSlot_ok taken
  intro b
  have before := h b
  have slots := ((perm_of_lookup found unique).map Prod.snd).count_eq b
  simp only [slotBridges, List.map_cons, List.count_cons] at before slots ⊢
  omega

theorem Flies.lower {bridge : BridgeId} (h : x.Flies (bridge :: lowers)) :
    (x.lower bridge).Flies lowers := by
  intro b
  have before := h b
  by_cases same : b = bridge
  · subst same
    rw [List.count_cons_self] at before
    simp only [Exchange.lower, Arena.lower, slotBridges, setAt_apply, if_true] at before ⊢
    omega
  · rw [List.count_cons_of_ne (Ne.symm same)] at before
    simpa only [Exchange.lower, Arena.lower, slotBridges, setAt_apply, if_neg same] using before

theorem Flies.resume {token : Token} {outcome : Outcome} {resumed : Resumed} (h : x.Flies lowers)
    (books : Books engines x calls hand held)
    (done : x.resume token outcome = (.ok resumed, x')) : x'.Flies lowers := by
  obtain ⟨bridge, y, taken, -, rfl⟩ := resume_ok done
  have once := books.once token
  exact (h.takeSlot (by omega) taken).lower.same (send_arena token outcome (y.lower bridge))

theorem Flies.complete {callback : Callback} (h : x.Flies lowers)
    (books : Books engines x calls hand held) (done : x.complete libraries callback = .ok x') :
    x'.Flies lowers := by
  obtain ⟨bridge, y, outcome, native, resumed, found, -, resumes⟩ := complete_ok done
  have before := (((books.enter callback.context).lookUp found).native native).release
  have flies : (release bridge { y with native := native }).Flies lowers := by
    obtain ⟨-, rfl⟩ := lookUp_ok found
    exact h.same rfl
  exact flies.resume before resumes

theorem Flies.completeAll {callbacks : List Callback} (h : x.Flies lowers)
    (books : Books engines x calls hand held)
    (done : completeAll libraries callbacks x = .ok x') : x'.Flies lowers := by
  have both : x'.Flies lowers ∧ Books engines x' calls hand held :=
    completeAll_keeps (P := fun y => y.Flies lowers ∧ Books engines y calls hand held)
      (fun _ _ _ _ ⟨flies, kept⟩ completed => ⟨flies.complete kept completed, kept.complete completed⟩)
      ⟨h, books⟩ done
  exact both.1

/-- A call is looked at, and registered if need be; the engine may answer at once. -/
theorem Flies.pollAmid {call call' : Call} {progress : Progress} (h : x.Flies lowers)
    (books : Books engines x (call :: calls) hand held)
    (done : x.pollAmid libraries hand call = .ok (progress, call', x')) : x'.Flies lowers := by
  cases pollAmid_ok done with
  | gone => exact h
  | started collected => exact h.same (collect_calm collected).1.arena
  | refused refusal => exact h.same rfl
  | @handed bridge _ text _ _ _ _ sent handed collected =>
    have flies := (h.handed bridge text).completeAll ((Books.unstarted_iff.1 books).handed text)
      (handOver_ok handed).2
    exact flies.same (collect_calm collected).1.arena

theorem Flies.pollWithin {limit : Option Duration} {passed : Bool} {call call' : Call}
    {progress : Progress} (h : x.Flies lowers) (books : Books engines x (call :: calls) hand held)
    (done : x.pollWithin libraries hand limit passed call = .ok (progress, call', x')) :
    x'.Flies lowers := by
  obtain ⟨seen, call'', y, polled, calm⟩ := pollWithin_calmly done
  -- a call that is dropped leaves its slot behind
  exact (h.pollAmid books polled).same calm.arena

theorem Flies.advance {callback : Callback} {stage : Stage} {next : Option Stage}
    (h : x.Flies (stage.lowers ++ lowers)) (books : Books engines x calls hand held)
    (done : x.advance libraries callback stage = .ok (next, x')) :
    x'.Flies (next.elim [] Stage.lowers ++ lowers) := by
  cases advance_ok done with
  | retires outcome taken =>
    have once := books.once callback.context
    exact Flies.takeSlot h (by omega) taken
  | lowers bridge outcome => exact Flies.lower h
  | sends bridge outcome => exact h.same (send_arena _ _ _)
  | _ => exact h.same rfl

end Exchange

namespace World

variable {σ : Type} {libraries : BridgeId → NativeLibrary σ} {engines : BridgeId → EngineHandle}
  {w w' : World σ}

/-- The calls in flight are those with a slot, and those that a callback is about to count off. -/
def Flying (w : World σ) : Prop := w.exchange.Flies (w.tasks.flatMap Task.lowers)

theorem initial_flying (native : σ) (engines : BridgeId → EngineHandle) :
    Flying (initial native engines) := fun _ => rfl

theorem Flying.at_task {place : Nat} {task : Task} (h : Flying w)
    (at_ : w.tasks[place]? = some task) :
    w.exchange.Flies (task.lowers ++ (w.tasks.eraseIdx place).flatMap Task.lowers) :=
  Exchange.Flies.reorder h (flatMap_perm_of_getElem? at_ Task.lowers)

theorem Flying.set_task {place : Nat} {task : Task} {x : Exchange σ}
    (at_ : w.tasks[place]? = some task) (task' : Task)
    (h : x.Flies (task'.lowers ++ (w.tasks.eraseIdx place).flatMap Task.lowers)) :
    Flying { w with exchange := x, tasks := w.tasks.set place task' } :=
  h.reorder (flatMap_set_perm_of_getElem? at_ task' Task.lowers).symm

/-- **A step keeps the count of calls in flight.** -/
theorem step_flying {action : Action σ} {answer : Answer} (h : Flying w) (sound : Sound engines w)
    (done : w.step libraries action = .ok (answer, w')) : Flying w' := by
  cases step_ok done with
  | poll at_ polled => exact Exchange.Flies.pollWithin h (sound.at_future at_) polled
  | @drop _ future at_ =>
    exact Exchange.Flies.same h (Exchange.drop_calm future.call w.exchange).arena
  | complete completed => exact Exchange.Flies.complete h sound completed
  | @resume _ _ result _ resumes =>
    cases result with
    | error violation => exact Exchange.resume_error resumes ▸ h
    | ok resumed => exact Exchange.Flies.resume h sound resumes
  | returns at_ advanced => exact Exchange.Flies.advance (h.at_task at_) sound advanced
  | advances at_ advanced =>
    exact .set_task at_ _ (Exchange.Flies.advance (h.at_task at_) sound advanced)
  | answers at_ => exact (h.at_task at_).same rfl
  | continues at_ more => exact .set_task at_ _ ((h.at_task at_).same rfl)
  | _ => exact Exchange.Flies.same h rfl

/-- **Every run keeps the count of calls in flight.** -/
theorem run_flying {actions : List (Action σ)} {answers : List Answer} (h : Flying w)
    (sound : Sound engines w) (ran : run libraries actions w = .ok (answers, w')) : Flying w' :=
  (run_induction (P := fun w => Flying w ∧ Sound engines w)
    (fun kept (_ : True) stepped =>
      ⟨step_flying kept.1 kept.2 stepped, step_sound kept.2 stepped⟩)
    ⟨h, sound⟩ (fun _ _ => trivial) ran).1

end World

/-! ## Callbacks and their details -/

namespace Exchange

open EngineSide (Accounts)

variable {x x' : Exchange Host} {start : EngineSide} {owing : List ThreadId} {out : List Buffer}
  {log : List Crossing}

/-- A callback goes through a stage: its detail goes from its thread's place into its hand, and
from there back to the engine. -/
theorem advance_accounts {callback : Callback} {stage : Stage} {next : Option Stage}
    (h : Accounts start x.native.side (stage.owing callback ++ owing) (stage.out ++ out) log)
    (done : x.advance Service.libraries callback stage = .ok (next, x')) :
    Accounts start x'.native.side (next.elim [] (Stage.owing callback) ++ owing)
      (next.elim [] Stage.out ++ out) log := by
  cases advance_ok done with
  | reads read => exact Host.readReport_accounts h read
  | frees bridge buffer outcome => exact Host.releaseAny_accounts h
  | retires outcome taken =>
    obtain ⟨-, rfl⟩ := takeSlot_ok taken
    exact h
  | sends bridge outcome =>
    rw [send_native]
    exact h
  | _ => exact h

end Exchange

namespace Service

open EngineSide (Accounts)

/-- The threads that have a detail to take. -/
def owing (s : Service) : List ThreadId :=
  s.ready.flatMap Callback.owing ++ s.world.tasks.flatMap Task.owing

/-- The buffers in the hands of threads. -/
def out (s : Service) : List Buffer := s.world.tasks.flatMap Task.out

/-- What holds of a service, of a log of what has crossed to the engine, and of the frames that
callers hold. -/
structure Accounted (start : EngineSide) (log : List Crossing) (held : List Buffer) (s : Service) :
    Prop where
  accounts : Accounts start s.host.side s.owing (s.out ++ held) log
  /-- A request that has not ended is a job. -/
  handed : s.host.jobs.length + Crossing.endings log = Crossing.requests log
  flying : s.world.Flying

end Service

namespace Service.Accounted

open EngineSide (Accounts)

variable {engine : Engine} {engines : BridgeId → EngineHandle} {start : EngineSide}
  {log log' : List Crossing} {held : List Buffer} {s : Service} {w' : World Host}

/-- Nothing has happened, and no detail is left from before. -/
theorem initial {host : Host} (idle : host.jobs = []) (tidy : ∀ t, host.side.lastError t = none)
    (engines : BridgeId → EngineHandle) :
    Accounted host.side [] [] (.initial host engines) where
  accounts := .initial tidy
  handed := by
    have jobs : (Service.initial host engines).host.jobs = [] := idle
    rw [jobs]
    rfl
  flying := World.initial_flying host engines

theorem accounts_iff {ready : List Callback} {tasks rest : List Task} {task : Task}
    {side : EngineSide} (perm : tasks.Perm (task :: rest)) :
    Accounts start side (ready.flatMap Callback.owing ++ tasks.flatMap Task.owing)
        (tasks.flatMap Task.out ++ held) log
      ↔ Accounts start side
        (task.owing ++ (ready.flatMap Callback.owing ++ rest.flatMap Task.owing))
        (task.out ++ (rest.flatMap Task.out ++ held)) log := by
  have threads : (ready.flatMap Callback.owing ++ tasks.flatMap Task.owing).Perm
      (task.owing ++ (ready.flatMap Callback.owing ++ rest.flatMap Task.owing)) :=
    ((perm.flatMap_right Task.owing).append_left _).trans (List.perm_append_comm_assoc _ _ _)
  have buffers : (tasks.flatMap Task.out ++ held).Perm
      (task.out ++ (rest.flatMap Task.out ++ held)) := by
    rw [← List.append_assoc]
    exact (perm.flatMap_right Task.out).append_right held
  exact ⟨fun h => h.reorder threads buffers, fun h => h.reorder threads.symm buffers.symm⟩

/-- Who owes the taking of a detail is not free. -/
theorem not_owing (serving : Serving engine engines s) {thread : ThreadId}
    (free : s.isFree thread = true) : thread ∉ s.owing := by
  obtain ⟨notReady, notBusy⟩ := Serving.isFree_iff.1 free
  intro owes
  rcases List.mem_append.1 owes with waits | works
  · obtain ⟨callback, member, own⟩ := List.mem_flatMap.1 waits
    exact notReady (Callback.eq_of_owing own ▸ List.mem_map_of_mem member)
  · obtain ⟨⟨at_, bridge, work⟩, member, own⟩ := List.mem_flatMap.1 works
    have honest := serving.tasks _ member
    have same : thread = at_ := by
      cases work with
      | callback callback stage => exact (Stage.eq_of_owing own).trans honest.1
      | codec call stage => exact CodecStage.eq_of_owing own
    exact notBusy (same ▸ List.mem_map_of_mem member)

/-! ## Steps that leave the engine alone -/

theorem of_native_eq (h : Accounted start log held s) (flying : w'.Flying)
    (native : w'.exchange.native = s.host) (tasks : w'.tasks = s.world.tasks) :
    Accounted start log held ⟨w', s.ready⟩ where
  accounts := by
    rw [owing, out, host, native, tasks]
    exact h.accounts
  handed := by
    rw [host, native]
    exact h.handed
  flying := flying

/-- A request is handed over, and is a job. -/
theorem of_submit (h : Accounted start log held s) (flying : w'.Flying) {token : Token}
    {request : String} (text : CText)
    (native : w'.exchange.native = s.host.submit token request)
    (tasks : w'.tasks = s.world.tasks) : Accounted start (.request text :: log) held ⟨w', s.ready⟩
    where
  accounts := by
    rw [owing, out, host, native, tasks, Accounts, Crossing.failures_cons,
      Crossing.successes_cons, Crossing.endings_cons]
    exact h.accounts
  handed := by
    obtain ⟨worker, due, jobs⟩ := Host.submit_jobs token request s.host
    have before := h.handed
    rw [host, native, jobs, Crossing.endings_cons, Crossing.requests_cons, List.length_append]
    simp only [List.length_singleton, Crossing.isEnding, Crossing.isRequest, Bool.toNat_true,
      Bool.toNat_false]
    omega
  flying := flying

/-! ## Steps of threads -/

theorem call (h : Accounted start log held s) (serving : Serving engine engines s)
    (flying : w'.Flying) {thread : ThreadId} {bridge : BridgeId} {codec : CodecCall}
    (free : s.isFree thread = true) {answer : Answer}
    (done : s.world.step Service.libraries (.call thread bridge codec) = .ok (answer, w')) :
    Accounted start (s.crossings (.act (.call thread bridge codec)) ++ log)
      (answer.frames ++ held) ⟨w', s.ready⟩ := by
  cases World.step_ok done with
  | call idle able =>
    have began := Host.beginCodec_accounts h.accounts (not_owing serving free) codec
    have handed : (Host.library.beginCodec thread codec s.host).2.jobs.length
        + Crossing.endings (s.crossings (.act (.call thread bridge codec)) ++ log)
          = Crossing.requests (s.crossings (.act (.call thread bridge codec)) ++ log) := by
      obtain ⟨requests, endings⟩ :=
        Crossing.requests_codec codec (Host.library.beginCodec thread codec s.host).1 log
      rw [(Host.beginCodec_told thread codec s.host).2.jobs, crossings, requests, endings]
      exact h.handed
    exact ⟨(accounts_iff (.refl _)).2 began, handed, flying⟩

theorem advance (h : Accounted start log held s) (serving : Serving engine engines s)
    (flying : w'.Flying) {place : Nat} {answer : Answer}
    (done : s.world.step Service.libraries (.advance place) = .ok (answer, w')) :
    Accounted start log (answer.frames ++ held) ⟨w', s.ready⟩ := by
  have handed : w'.exchange.native.jobs.length + Crossing.endings log = Crossing.requests log := by
    rw [serving.advance_jobs done]
    exact h.handed
  refine ⟨?_, handed, flying⟩
  cases World.step_ok done with
  | returns at_ advanced =>
    have before := (accounts_iff (perm_of_getElem? at_)).1 h.accounts
    exact Exchange.advance_accounts before advanced
  | advances at_ advanced =>
    have before := (accounts_iff (perm_of_getElem? at_)).1 h.accounts
    exact (accounts_iff (set_perm_of_getElem? at_ _)).2 (Exchange.advance_accounts before advanced)
  | answers at_ =>
    -- the frame goes from the thread's hand to the caller
    have before := (accounts_iff (perm_of_getElem? at_)).1 h.accounts
    exact before.reorder (.refl _) (List.perm_append_comm_assoc _ _ _)
  | continues at_ more =>
    have before := (accounts_iff (perm_of_getElem? at_)).1 h.accounts
    have honest := serving.tasks _ (List.mem_of_getElem? at_)
    exact (accounts_iff (set_perm_of_getElem? at_ _)).2
      (Host.advanceCodec_accounts before honest)

/-! ## Steps of callers -/

/-- Nothing crosses when a call is looked at that has nothing to hand over. -/
theorem crossings_refused {call : Call} (refused : ∀ bridge request,
    call = .unstarted bridge request → ∃ refusal, toCText request = .error refusal) :
    call.crossings = [] := by
  cases call with
  | unstarted bridge request =>
    obtain ⟨refusal, is⟩ := refused bridge request rfl
    simp only [Call.crossings, is]
  | started bridge token => rfl
  | gone => rfl

theorem poll (h : Accounted start log held s) (flying : w'.Flying) {place : Nat} {passed : Bool}
    {answer : Answer}
    (done : s.world.step Service.libraries (.poll place passed) = .ok (answer, w')) :
    Accounted start (s.crossings (.act (.poll place passed)) ++ log) (answer.frames ++ held)
      ⟨w', s.ready⟩ := by
  cases World.step_ok done with
  | @poll _ _ future progress call x at_ polled =>
    have polls := Exchange.pollWithin_polls Service.libraries_defer polled
    have same : s.crossings (.act (.poll place passed)) = future.call.crossings := by
      simp only [crossings, at_]
    rw [same]
    generalize future.call = was at polls ⊢
    cases polls with
    | collects kept calm refused =>
      rw [crossings_refused refused]
      exact h.of_native_eq flying calm.native rfl
    | @hands bridge request text _ sent kept calm =>
      have crosses : (Call.unstarted bridge request).crossings = [.request text] := by
        simp only [Call.crossings, sent]
      have native := calm.native.trans (congrArg Prod.snd (Host.execute_eq sent _ s.host))
      rw [crosses]
      exact h.of_submit flying text native rfl

/-- **What a caller or a thread does keeps the accounts.** -/
theorem act (h : Accounted start log held s) (serving : Serving engine engines s)
    {action : Action Host} {answer : Answer} {s' : Service}
    (done : s.act action = .ok (answer, s')) :
    Accounted start (s.crossings (.act action) ++ log) (answer.frames ++ held) s' := by
  obtain ⟨served, free, w, stepped, rfl⟩ := Serving.act_ok done
  have flying := World.step_flying h.flying serving.based.sound stepped
  cases action with
  | poll place passed => exact h.poll flying stepped
  | advance place => exact h.advance serving flying stepped
  | call thread bridge codec =>
    exact h.call serving flying (by simpa [Action.thread?] using free) stepped
  | complete callback => simp [Action.isServed] at served
  | resume token outcome => simp [Action.isServed] at served
  | work native => simp [Action.isServed] at served
  | enter bridge callback native => simp [Action.isServed] at served
  | drop place =>
    cases World.step_ok stepped with
    | @drop _ future at_ =>
      have calm := Exchange.drop_calm future.call s.world.exchange
      exact h.of_native_eq flying calm.native rfl
  | _ =>
    cases World.step_ok stepped
    exact h.of_native_eq flying rfl rfl

/-! ## Steps of the engine -/

/-- A job is finished on a thread that is free. -/
theorem of_finishOn (h : Accounted start log held s) (serving : Serving engine engines s)
    {thread : ThreadId} {job : Job} {callback : Callback} {host' : Host}
    (free : s.isFree thread = true) (member : job ∈ s.host.jobs)
    (finished : s.host.finishOn thread job = (callback, host')) :
    Accounted start (.ending job.context callback.status :: log) held
      ⟨{ s.world with exchange := { s.world.exchange with native := host' } },
        callback :: s.ready⟩ := by
  have accounts := Host.finishOn_accounts h.accounts (not_owing serving free) job
  have jobs := (Host.finishOn_told thread job s.host).2.2.2.2.2.1
  rw [finished] at accounts jobs
  dsimp only at accounts jobs
  have stepped : s.world.step libraries (.work host') = .ok (.done, _) := rfl
  refine ⟨accounts.reorder (.of_eq (List.append_assoc _ _ _).symm) (.refl _), ?_,
    World.step_flying h.flying serving.based.sound stepped⟩
  -- one job less, and one ending more
  have before := h.handed
  have fewer := List.length_erase_of_mem member
  have some := List.length_pos_of_mem member
  rw [Crossing.endings_cons, Crossing.requests_cons]
  simp only [host, Crossing.isEnding, Crossing.isRequest, Bool.toNat_true, Bool.toNat_false]
    at before fewer some ⊢
  rw [jobs, host, fewer]
  omega

theorem finish (h : Accounted start log held s) (serving : Serving engine engines s)
    {thread : ThreadId} {place : Nat} {answer : Answer} {s' : Service}
    (done : s.finish thread place = .ok (answer, s')) :
    Accounted start (s.crossings (.finish thread place) ++ log) (answer.frames ++ held) s' := by
  unfold Service.finish at done
  split at done
  · simp at done
  · rename_i job at_
    split at done
    · rename_i free
      simp only [after, World.step, Except.ok.injEq, Prod.mk.injEq] at done
      obtain ⟨rfl, rfl⟩ := done
      simp only [crossings, at_]
      exact h.of_finishOn serving free (List.mem_of_getElem? at_) rfl
    · simp at done

/-- A callback is entered: its thread owes what it owed. -/
theorem report (h : Accounted start log held s) (serving : Serving engine engines s)
    {place : Nat} {answer : Answer} {s' : Service} (done : s.report place = .ok (answer, s')) :
    Accounted start log (answer.frames ++ held) s' := by
  unfold Service.report at done
  split at done
  · simp at done
  · rename_i callback at_
    split at done
    · simp at done
    · unfold Service.after at done
      split at done
      · simp at done
      · rename_i stepped
        cases done
        have flying := World.step_flying h.flying serving.based.sound stepped
        cases World.step_ok stepped with
        | enter idle waits =>
          have moved := (flatMap_perm_of_getElem? at_ Callback.owing).append_right
            (s.world.tasks.flatMap Task.owing)
          rw [List.append_assoc] at moved
          exact ⟨h.accounts.reorder (moved.trans (List.perm_append_comm_assoc _ _ _)) (.refl _),
            h.handed, flying⟩

/-- **Every turn keeps the accounts.** -/
theorem step (h : Accounted start log held s) (serving : Serving engine engines s) {turn : Turn}
    {answer : Answer} {s' : Service} (done : s.step turn = .ok (answer, s')) :
    Accounted start (s.crossings turn ++ log) (answer.frames ++ held) s' := by
  cases turn with
  | act action => exact h.act serving done
  | finish thread place => exact h.finish serving done
  | report place => exact h.report serving done

theorem release (h : Accounted start log held s) {place : Nat} {buffer : Buffer}
    (at_ : held[place]? = some buffer) :
    Accounted start log (held.eraseIdx place) (s.release buffer) where
  accounts := by
    have moved := ((perm_of_getElem? at_).append_left s.out).trans List.perm_middle
    exact EngineSide.Balances.release (h.accounts.reorder (.refl _) moved)
  handed := h.handed
  flying := h.flying

/-! ## When no call is in flight -/

theorem no_slot (h : Accounted start log held s)
    (landed : ∀ bridge, s.world.exchange.arena.inFlight bridge = 0) :
    s.world.exchange.arena.slots = [] := by
  refine List.eq_nil_iff_forall_not_mem.2 fun slot member => ?_
  have owns := List.count_pos_iff.2 (List.mem_map_of_mem (f := Prod.snd) member)
  have flies := h.flying slot.2
  have := landed slot.2
  rw [Exchange.slotBridges] at flies
  omega

/-- No request waits for its callback, so there is neither a job nor a callback to enter. -/
theorem no_job (serving : Serving engine engines s)
    (slots : s.world.exchange.arena.slots = []) : s.host.jobs = [] ∧ s.ready = [] := by
  have requests : s.world.exchange.requests = [] := by
    refine List.eq_nil_iff_forall_not_mem.2 fun request member => ?_
    have awaits : (request.token, request.bridge) ∈ s.world.exchange.awaited :=
      List.mem_map_of_mem member
    have kept := serving.based.attended.keeps (request.token, request.bridge)
    have := List.count_pos_iff.2 awaits
    rw [slots, List.count_nil] at kept
    omega
  have taken := serving.taken
  rw [requests] at taken
  obtain ⟨jobs, ready⟩ := List.append_eq_nil_iff.1 taken.symm.eq_nil
  exact ⟨List.map_eq_nil_iff.1 jobs, List.map_eq_nil_iff.1 ready⟩

/-- A callback without a slot has its detail and the detail's buffer behind it. -/
theorem no_debt (serving : Serving engine engines s)
    (slots : s.world.exchange.arena.slots = []) {task : Task} {callback : Callback} {stage : Stage}
    (member : task ∈ s.world.tasks) (is : task.work = .callback callback stage) :
    task.owing = [] ∧ task.out = [] := by
  have unpledged : stage.isPledged = false := by
    refine Bool.eq_false_iff.2 fun pledged => ?_
    have pledge : (callback.context, task.engine) ∈ s.world.tasks.filterMap Task.pledge? :=
      List.mem_filterMap.2 ⟨task, member, by simp only [Task.pledge?, is, pledged, if_true]⟩
    have kept := serving.based.attended.keeps (callback.context, task.engine)
    have := List.count_pos_iff.2 pledge
    rw [slots, List.count_nil] at kept
    omega
  simp only [Task.owing, Task.out, is]
  cases stage <;> first | exact ⟨rfl, rfl⟩ | cases unpledged

/-- **At rest nothing is owed and no thread holds a buffer**: no call is in flight, and no thread
is in the middle of a codec call. -/
theorem at_rest (h : Accounted start log held s) (serving : Serving engine engines s)
    (landed : ∀ bridge, s.world.exchange.arena.inFlight bridge = 0)
    (returned : ∀ task ∈ s.world.tasks, ∀ call stage, task.work ≠ .codec call stage) :
    s.host.jobs = [] ∧ s.owing = [] ∧ s.out = [] := by
  have slots := h.no_slot landed
  obtain ⟨jobs, ready⟩ := no_job serving slots
  have clear (task : Task) (member : task ∈ s.world.tasks) : task.owing = [] ∧ task.out = [] := by
    cases is : task.work with
    | codec call stage => exact absurd is (returned task member call stage)
    | callback callback stage => exact no_debt serving slots member is
  refine ⟨jobs, ?_, ?_⟩
  · rw [owing, ready]
    exact List.flatMap_eq_nil_iff.2 fun task member => (clear task member).1
  · exact List.flatMap_eq_nil_iff.2 fun task member => (clear task member).2

end Service.Accounted

end EngineBridge
