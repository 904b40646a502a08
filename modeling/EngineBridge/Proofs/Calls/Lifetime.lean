import EngineBridge.Native.Loading
import EngineBridge.Native.Scripted
import EngineBridge.Proofs.Calls.Runs
/-!
# The lifetime of an engine: who keeps a `BridgeShared`

`engine_lifetime`: an engine is freed in the very step in which the last reference to its
bridge goes, once, at the address at which it was made, and not while a request waits for its
callback; and loading a library makes one engine at most, which is then in use.
-/

namespace EngineBridge

namespace Exchange

variable {σ : Type} {libraries : BridgeId → NativeLibrary σ} {engines : BridgeId → EngineHandle}
  {x x' y : Exchange σ} {calls : List Call} {hand : List Token} {held : BridgeId → Nat}

/-! ## Requests that wait for their callbacks -/

/-- A request that waits for its callback has its slot. -/
def Tracked (x : Exchange σ) : Prop :=
  ∀ request ∈ x.requests, (request.token, request.bridge) ∈ x.arena.slots

/-- Requests stay tracked, and a new one has a new token. -/
structure Tracks (x x' : Exchange σ) : Prop where
  tracked : x.Tracked → x'.Tracked
  next : (x.arena.nextToken : Nat) ≤ x'.arena.nextToken
  requests : ∀ request ∈ x'.requests,
    request ∈ x.requests ∨ (x.arena.nextToken : Nat) ≤ request.token

theorem Tracks.same (next : x'.arena.nextToken = x.arena.nextToken)
    (slots : x'.arena.slots = x.arena.slots) (requests : x'.requests = x.requests) :
    Tracks x x' where
  tracked h := by rw [Tracked, requests, slots]; exact h
  next := Nat.le_of_eq next.symm
  requests request member := .inl (requests ▸ member)

theorem Tracks.trans (h : Tracks x y) (h' : Tracks y x') : Tracks x x' where
  tracked tracked := h'.tracked (h.tracked tracked)
  next := Nat.le_trans h.next h'.next
  requests request member := by
    rcases h'.requests request member with old | new
    · exact h.requests request old
    · exact .inr (Nat.le_trans h.next new)

/-- The slot of a token goes together with its request. -/
theorem Tracks.retire {token : Token} (next : x'.arena.nextToken = x.arena.nextToken)
    (slots : x'.arena.slots = x.arena.slots.filter fun slot => slot.1 ≠ token)
    (requests : x'.requests = x.requests.filter fun request => request.token ≠ token) :
    Tracks x x' where
  tracked h request member := by
    rw [requests, List.mem_filter] at member
    rw [slots, List.mem_filter]
    exact ⟨h request member.1, member.2⟩
  next := Nat.le_of_eq next.symm
  requests request member := by
    rw [requests, List.mem_filter] at member
    exact .inl member.1

/-- A `resume` takes the token's slot away and leaves requests alone. -/
theorem resume_slots {token : Token} {outcome : Outcome} {resumed : Resumed}
    (done : x.resume token outcome = (.ok resumed, x')) :
    x'.arena.nextToken = x.arena.nextToken ∧
      x'.arena.slots = (x.arena.slots.filter fun slot => slot.1 ≠ token) ∧
      x'.requests = x.requests := by
  obtain ⟨bridge, y, taken, -, rfl⟩ := resume_ok done
  have arena : (release bridge ((y.lower bridge).send token outcome).2).arena
      = (y.lower bridge).arena := send_arena token outcome (y.lower bridge)
  have requests : (release bridge ((y.lower bridge).send token outcome).2).requests
      = y.requests := send_requests token outcome (y.lower bridge)
  rw [arena, requests, (takeSlot_ok taken).2]
  exact ⟨rfl, rfl, rfl⟩

theorem complete_tracks {callback : Callback} (done : x.complete libraries callback = .ok x') :
    Tracks x x' := by
  obtain ⟨bridge, y, outcome, native, resumed, found, -, resumes⟩ := complete_ok done
  obtain ⟨next, slots, requests⟩ := resume_slots resumes
  rw [(lookUp_ok found).2] at next slots requests
  exact .retire next slots requests

theorem handed_tracks (bridge : BridgeId) (text : CText) (x : Exchange σ) :
    Tracks x (x.handed libraries bridge text) where
  tracked h request member := by
    rcases List.mem_cons.1 member with rfl | old
    · exact List.mem_cons_self
    · exact List.mem_cons_of_mem _ (h request old)
  next := Nat.le_succ _
  requests request member := by
    rcases List.mem_cons.1 member with rfl | old
    · exact .inr (Nat.le_refl _)
    · exact .inl old

theorem drop_tracks (call : Call) (x : Exchange σ) : Tracks x (x.drop call) := by
  cases call <;> exact .same rfl rfl rfl

theorem pollWithin_tracks {limit : Option Duration} {passed : Bool} {call call' : Call}
    {progress : Progress}
    (done : x.pollWithin libraries hand limit passed call = .ok (progress, call', x')) :
    Tracks x x' :=
  pollWithin_keeps (fun call _ before => before.trans (drop_tracks call _))
    (fun bridge text before => before.trans (handed_tracks bridge text x))
    (fun _ _ _ _ _ _ before completed => before.trans (complete_tracks completed))
    (.same rfl rfl rfl) done

/-- A stage of a callback keeps requests tracked, since its own is none of them. -/
theorem advance_tracks {callback : Callback} {stage : Stage} {next : Option Stage}
    (entered : ∀ request ∈ x.requests, request.token ≠ callback.context)
    (done : x.advance libraries callback stage = .ok (next, x')) : Tracks x x' := by
  cases advance_ok done with
  | retires outcome taken =>
    rw [(takeSlot_ok taken).2]
    refine Tracks.retire rfl rfl (List.filter_eq_self.2 fun request member => ?_).symm
    simpa using entered request member
  | sends bridge outcome =>
    exact .same (by rw [send_arena]) (by rw [send_arena]) (send_requests _ _ _)
  | _ => exact .same rfl rfl rfl

/-! ## What was freed stays freed -/

/-- No note of a freed engine is ever lost. -/
def Grows (x x' : Exchange σ) : Prop :=
  ∀ bridge, (x.bridges bridge).frees <:+ (x'.bridges bridge).frees

theorem Grows.same (bridges : x'.bridges = x.bridges) : Grows x x' := by
  intro bridge
  simp only [bridges, List.suffix_rfl]

theorem Grows.trans (h : Grows x y) (h' : Grows y x') : Grows x x' := fun bridge =>
  (h bridge).trans (h' bridge)

theorem retain_grows (bridge : BridgeId) (x : Exchange σ) : Grows x (x.retain bridge) := by
  intro b
  by_cases hb : b = bridge
  · subst hb; simp [Exchange.retain, Ownership.retain]
  · simp [Exchange.retain, hb]

theorem release_grows (bridge : BridgeId) (x : Exchange σ) : Grows x (x.release bridge) := by
  intro b
  by_cases hb : b = bridge
  · subst hb
    simp only [Exchange.release, Ownership.release, setAt_apply, if_true]
    split
    · exact List.suffix_append _ _
    · exact List.suffix_refl _
  · simp [Exchange.release, hb]

theorem resume_grows {token : Token} {outcome : Outcome} {resumed : Resumed}
    (done : x.resume token outcome = (.ok resumed, x')) : Grows x x' := by
  obtain ⟨bridge, y, taken, -, rfl⟩ := resume_ok done
  have before : Grows x ((y.lower bridge).send token outcome).2 := by
    refine .same ?_
    rw [send_bridges, (takeSlot_ok taken).2]
    rfl
  exact before.trans (release_grows bridge _)

theorem complete_grows {callback : Callback} (done : x.complete libraries callback = .ok x') :
    Grows x x' := by
  obtain ⟨bridge, y, outcome, native, resumed, found, -, resumes⟩ := complete_ok done
  have held : Grows x y := by
    rw [(lookUp_ok found).2]; exact retain_grows bridge (x.enter callback.context)
  exact (held.trans (release_grows bridge { y with native := native })).trans (resume_grows resumes)

theorem handed_grows (bridge : BridgeId) (text : CText) (x : Exchange σ) :
    Grows x (x.handed libraries bridge text) := retain_grows bridge x

theorem drop_grows (call : Call) (x : Exchange σ) : Grows x (x.drop call) := by
  cases call with
  | gone => exact .same rfl
  | unstarted bridge request => exact release_grows bridge x
  | started bridge token => exact release_grows bridge (x.close token)

theorem pollWithin_grows {limit : Option Duration} {passed : Bool} {call call' : Call}
    {progress : Progress}
    (done : x.pollWithin libraries hand limit passed call = .ok (progress, call', x')) :
    Grows x x' :=
  pollWithin_keeps (fun call _ before => before.trans (drop_grows call _))
    (fun bridge text before => before.trans (handed_grows bridge text x))
    (fun _ _ _ _ _ _ before completed => before.trans (complete_grows completed))
    (.same rfl) done

theorem advance_grows {callback : Callback} {stage : Stage} {next : Option Stage}
    (done : x.advance libraries callback stage = .ok (next, x')) : Grows x x' := by
  cases advance_ok done with
  | looks found => exact retain_grows _ x
  | leaves bridge outcome => exact release_grows bridge x
  | retires outcome taken =>
    rw [(takeSlot_ok taken).2]
    exact .same rfl
  | sends bridge outcome => exact .same (send_bridges _ _ _)
  | closes bridge => exact release_grows bridge x
  | _ => exact .same rfl

end Exchange

/-- The token that a task calls back for. -/
def Task.context? (task : Task) : Option Token :=
  match task.work with
  | .callback callback _ => some callback.context
  | .codec .. => none

/-- Whether the arena is resumed directly. -/
def Action.isResume {σ : Type} : Action σ → Bool
  | resume .. => true
  | _ => false

namespace World

variable {σ : Type} {libraries : BridgeId → NativeLibrary σ} {engines : BridgeId → EngineHandle}
  {w w' : World σ}

/-! ## Who refers to a bridge -/

/-- Whether a handle, an unfinished future, a slot or a task refers to a bridge. -/
def Refers (w : World σ) (bridge : BridgeId) : Prop :=
  0 < w.handles bridge ∨ (∃ future ∈ w.futures, future.call.bridge? = some bridge) ∨
    (∃ slot ∈ w.exchange.arena.slots, slot.2 = bridge) ∨
    ∃ task ∈ w.tasks, task.bridge? = some bridge

theorem Sound.refers_iff (h : Sound engines w) (bridge : BridgeId) :
    w.Refers bridge ↔ 0 < (w.exchange.bridges bridge).owners := by
  have futures : (∃ future ∈ w.futures, future.call.bridge? = some bridge) ↔
      0 < (w.calls.filterMap Call.bridge?).count bridge := by
    rw [List.count_pos_iff]
    simp [World.calls, List.mem_filterMap]
  have slots : (∃ slot ∈ w.exchange.arena.slots, slot.2 = bridge) ↔
      0 < w.exchange.slotBridges.count bridge := by
    rw [List.count_pos_iff]
    simp [Exchange.slotBridges]
  have tasks : (∃ task ∈ w.tasks, task.bridge? = some bridge) ↔
      0 < (w.tasks.filterMap Task.bridge?).count bridge := by
    rw [List.count_pos_iff]
    simp [List.mem_filterMap]
  rw [Refers, futures, slots, tasks, h.owners bridge, held]
  omega

/-- An engine is not freed while anything refers to its bridge, and is when nothing does. -/
theorem Sound.frees_eq (h : Sound engines w) (bridge : BridgeId) :
    (w.Refers bridge → (w.exchange.bridges bridge).frees = []) ∧
      (¬ w.Refers bridge →
        (w.exchange.bridges bridge).frees = (engines bridge).toFree.toList) := by
  rw [h.refers_iff bridge, h.frees bridge]
  constructor
  · intro alive
    rw [if_neg (by omega)]
  · intro dead
    rw [if_pos (by omega)]

/-! ## Runs in which only engines answer -/

/-- Requests that wait have their slots, and those that are called back for wait no more. -/
structure Orderly (w : World σ) : Prop where
  tracked : w.exchange.Tracked
  entered : ∀ task ∈ w.tasks, ∀ context, task.context? = some context →
    (context : Nat) < w.exchange.arena.nextToken ∧
      ∀ request ∈ w.exchange.requests, request.token ≠ context

theorem initial_orderly (native : σ) (engines : BridgeId → EngineHandle) :
    Orderly (initial native engines) :=
  ⟨fun _ member => absurd member List.not_mem_nil, fun _ member => absurd member List.not_mem_nil⟩

theorem Orderly.of_tracks (h : Orderly w) (tracks : w.exchange.Tracks w'.exchange)
    (tasks : ∀ task ∈ w'.tasks, task.context? = none ∨
      ∃ old ∈ w.tasks, old.context? = task.context?) : Orderly w' where
  tracked := tracks.tracked h.tracked
  entered task member context is := by
    rcases tasks task member with none | ⟨old, old_member, same⟩
    · simp [none] at is
    · obtain ⟨issued, apart⟩ := h.entered old old_member context (same.trans is)
      refine ⟨Nat.lt_of_lt_of_le issued tracks.next, ?_⟩
      intro request waits
      rcases tracks.requests request waits with waited | fresh
      · exact apart request waited
      · rintro rfl
        exact absurd issued (Nat.not_lt.2 fresh)

theorem Orderly.of_same_tasks (h : Orderly w) (tracks : w.exchange.Tracks w'.exchange)
    (tasks : w'.tasks = w.tasks) : Orderly w' :=
  h.of_tracks tracks fun task member => .inr ⟨task, tasks ▸ member, rfl⟩

theorem Orderly.enter {bridge : BridgeId} {callback : Callback} {native : σ}
    (h : Orderly w) (sound : Sound engines w)
    (waits : w.isOutstanding callback.context bridge = true) :
    Orderly { w with
      exchange := { w.exchange with native := native }.enter callback.context
      tasks := ⟨callback.thread, bridge, .callback callback .looking⟩ :: w.tasks } := by
  have kept : ∀ request ∈ (w.exchange.requests.filter
      fun request => request.token ≠ callback.context),
      request ∈ w.exchange.requests ∧ request.token ≠ callback.context := by
    intro request member
    obtain ⟨old, apart⟩ := List.mem_filter.1 member
    exact ⟨old, by simpa using apart⟩
  refine ⟨fun request member => h.tracked request (kept request member).1, ?_⟩
  intro task member context is
  rcases List.mem_cons.1 member with rfl | old
  · obtain rfl : callback.context = context := Option.some.inj is
    refine ⟨?_, fun request waits => (kept request waits).2⟩
    obtain ⟨request, waits, same⟩ := List.any_eq_true.1 waits
    simp only [decide_eq_true_eq] at same
    have slot := h.tracked request waits
    have : request.token ∈ w.exchange.tokens := List.mem_map_of_mem slot
    have := List.count_pos_iff.2 this
    have issued := (sound.issued request.token).1 (by omega)
    rw [same.1] at issued
    exact issued.2
  · obtain ⟨issued, apart⟩ := h.entered task old context is
    exact ⟨issued, fun request waits => apart request (kept request waits).1⟩

/-- The tasks of a world are those of another one, but for the stage of one. -/
theorem context_of_set {place : Nat} {task task' : Task} (at_ : w.tasks[place]? = some task)
    (same : task.context? = task'.context?) : ∀ t ∈ w.tasks.set place task', t.context? = none ∨
      ∃ old ∈ w.tasks, old.context? = t.context? := by
  intro t member
  rcases List.mem_or_eq_of_mem_set member with old | rfl
  · exact .inr ⟨t, old, rfl⟩
  · exact .inr ⟨task, List.mem_of_getElem? at_, same⟩

theorem context_of_erase {place : Nat} : ∀ t ∈ w.tasks.eraseIdx place, t.context? = none ∨
    ∃ old ∈ w.tasks, old.context? = t.context? :=
  fun t member => .inr ⟨t, List.mem_of_mem_eraseIdx member, rfl⟩

theorem step_orderly {action : Action σ} {answer : Answer} (h : Orderly w)
    (sound : Sound engines w) (answers : action.isResume = false)
    (done : w.step libraries action = .ok (answer, w')) : Orderly w' := by
  cases step_ok done with
  | poll at_ polled => exact h.of_same_tasks (Exchange.pollWithin_tracks polled) rfl
  | drop at_ => exact h.of_same_tasks (Exchange.drop_tracks _ _) rfl
  | complete completed => exact h.of_same_tasks (Exchange.complete_tracks completed) rfl
  | resume resumes => simp [Action.isResume] at answers
  | enter idle waits => exact h.enter sound waits
  | call idle able =>
    refine h.of_tracks (.same rfl rfl rfl) ?_
    intro task member
    rcases List.mem_cons.1 member with rfl | old
    · exact .inl rfl
    · exact .inr ⟨task, old, rfl⟩
  | returns at_ advanced =>
    have entered := (h.entered _ (List.mem_of_getElem? at_) _ rfl).2
    exact h.of_tracks (Exchange.advance_tracks entered advanced) context_of_erase
  | advances at_ advanced =>
    have entered := (h.entered _ (List.mem_of_getElem? at_) _ rfl).2
    exact h.of_tracks (Exchange.advance_tracks entered advanced) (context_of_set at_ rfl)
  | answers at_ => exact h.of_tracks (.same rfl rfl rfl) context_of_erase
  | continues at_ more => exact h.of_tracks (.same rfl rfl rfl) (context_of_set at_ rfl)
  | _ => exact h.of_same_tasks (.same rfl rfl rfl) rfl

theorem run_orderly {actions : List (Action σ)} {answers : List Answer} (h : Orderly w)
    (sound : Sound engines w) (all : ∀ action ∈ actions, action.isResume = false)
    (ran : run libraries actions w = .ok (answers, w')) : Orderly w' := by
  have keeps {w w' : World σ} {action : Action σ} {answer : Answer}
      (h : Orderly w ∧ Sound engines w) (answers : action.isResume = false)
      (stepped : w.step libraries action = .ok (answer, w')) : Orderly w' ∧ Sound engines w' :=
    ⟨step_orderly h.1 h.2 answers stepped, step_sound h.2 stepped⟩
  exact (run_induction keeps ⟨h, sound⟩ all ran).1

theorem step_grows {action : Action σ} {answer : Answer}
    (done : w.step libraries action = .ok (answer, w')) : w.exchange.Grows w'.exchange := by
  cases step_ok done with
  | clone able => exact Exchange.retain_grows _ _
  | letGo able => exact Exchange.release_grows _ _
  | start able => exact Exchange.retain_grows _ _
  | poll at_ polled => exact Exchange.pollWithin_grows polled
  | drop at_ => exact Exchange.drop_grows _ _
  | complete completed => exact Exchange.complete_grows completed
  | @resume _ _ result _ resumes =>
    cases result with
    | error violation =>
      rw [Exchange.resume_error resumes]
      exact .same rfl
    | ok resumed => exact Exchange.resume_grows resumes
  | call idle able => exact Exchange.retain_grows _ _
  | returns at_ advanced => exact Exchange.advance_grows advanced
  | advances at_ advanced => exact Exchange.advance_grows advanced
  | answers at_ => exact Exchange.release_grows _ _
  | _ => exact .same rfl

/-- What is true of the engines of all bridges wherever a run leads. -/
structure Lifetime (libraries : BridgeId → NativeLibrary σ) (engines : BridgeId → EngineHandle)
    (w : World σ) : Prop where
  /-- While anything refers to a bridge, its engine is not freed. -/
  kept : ∀ bridge, w.Refers bridge → (w.exchange.bridges bridge).frees = []
  /-- When nothing does, it was freed once, if it is to be freed. -/
  freed : ∀ bridge, ¬ w.Refers bridge →
    (w.exchange.bridges bridge).frees = (engines bridge).toFree.toList
  /-- It is freed in the very step in which the last reference goes, and in no other. -/
  atOnce : ∀ action answer w', w.step libraries action = .ok (answer, w') → ∀ bridge,
    (w'.exchange.bridges bridge).frees = (w.exchange.bridges bridge).frees ∨
      w.Refers bridge ∧ ¬ w'.Refers bridge ∧
        (w'.exchange.bridges bridge).frees = (engines bridge).toFree.toList

theorem Sound.lifetime (h : Sound engines w) : Lifetime libraries engines w where
  kept bridge := (h.frees_eq bridge).1
  freed bridge := (h.frees_eq bridge).2
  atOnce action answer w' stepped bridge := by
    have before := h.frees_eq bridge
    have after := (step_sound h stepped).frees_eq bridge
    by_cases refers : w.Refers bridge
    · by_cases refers' : w'.Refers bridge
      · exact .inl ((after.1 refers').trans (before.1 refers).symm)
      · exact .inr ⟨refers, refers', after.2 refers'⟩
    · by_cases refers' : w'.Refers bridge
      · -- what was freed is noted for ever, so there was nothing to free
        have grows := step_grows stepped bridge
        rw [after.1 refers'] at grows
        exact .inl ((after.1 refers').trans (List.suffix_nil.1 grows).symm)
      · exact .inl ((after.2 refers').trans (before.2 refers).symm)

end World

/-! ## Loading -/

/-- What loading a library does to the native side: nothing, or it makes one engine once all
required symbols are there, and an engine that was made is in use afterwards. -/
inductive Loads {σ : Type} (shelf : LibraryShelf σ) (s : σ) :
    Except LoadError (BoundLibrary σ) × σ → Prop where
  /-- No engine is made. -/
  | makesNone {result : Except LoadError (BoundLibrary σ)}
    (none : ∀ bound, result = .ok bound → bound.engine.address = none) : Loads shelf s (result, s)
  /-- An engine is asked for once, and none is made. -/
  | fails {path : String} {file : LibraryFile σ} {thread : ThreadId} {config : CText}
    {error : LoadError} {s' : σ} (found : shelf path = .ok file)
    (complete : ∀ symbol ∈ requiredSymbols, symbol ∈ file.symbols)
    (made : file.makeEngine thread config s = (none, s')) : Loads shelf s (.error error, s')
  /-- An engine is asked for once and made, and the library is used with it. -/
  | makes {path : String} {file : LibraryFile σ} {thread : ThreadId} {config : CText}
    {address : Nat} {s' : σ} (found : shelf path = .ok file)
    (complete : ∀ symbol ∈ requiredSymbols, symbol ∈ file.symbols)
    (made : file.makeEngine thread config s = (some address, s')) :
    Loads shelf s
      (.ok ⟨file.functions, ⟨some address, file.symbols.contains freeSymbol⟩⟩, s')

theorem LibrarySearch.load_loads {σ : Type} (search : LibrarySearch) (files : FileTree)
    (cwd : FilePlace) (shelf : LibraryShelf σ) (thread : ThreadId) (name : String)
    (config : Option String) (s : σ) :
    Loads shelf s (search.load files cwd shelf thread name config s) := by
  unfold LibrarySearch.load
  split
  · exact .makesNone (by simp)
  · rename_i path _
    split
    · exact .makesNone (by simp)
    · rename_i file found
      unfold LibraryFile.bind
      split
      · exact .makesNone (by simp)
      · rename_i missing
        have complete : ∀ symbol ∈ requiredSymbols, symbol ∈ file.symbols := by
          simpa [LibraryFile.missingSymbol?] using missing
        split
        · refine .makesNone ?_
          intro bound ok
          rw [← Except.ok.inj ok]
        · split
          · exact .makesNone (by simp)
          · split
            · rename_i made
              exact .fails found complete made
            · rename_i made
              exact .makes found complete made

/-! ## The lifetime -/

namespace World

variable {σ : Type} {libraries : BridgeId → NativeLibrary σ}

/-- **An engine is freed when nothing refers to it any more, and only then.**  If nobody resumes
the arena directly, requests that wait for their callbacks are among what refers to it; and of
the engines that loading makes none is lost. -/
theorem engine_lifetime (native : σ) (engines : BridgeId → EngineHandle)
    (actions : List (Action σ)) (answers : List Answer) (w : World σ)
    (ran : run libraries actions (initial native engines) = .ok (answers, w)) :
    Lifetime libraries engines w ∧
      ((∀ action ∈ actions, action.isResume = false) → ∀ request ∈ w.exchange.requests,
        w.Refers request.bridge ∧ (w.exchange.bridges request.bridge).frees = []) ∧
      ∀ (search : LibrarySearch) (files : FileTree) (cwd : FilePlace) (shelf : LibraryShelf σ)
        (thread : ThreadId) (name : String) (config : Option String) (s : σ),
        Loads shelf s (search.load files cwd shelf thread name config s) := by
  have sound := run_sound (initial_sound native engines) ran
  refine ⟨sound.lifetime, fun all request waits => ?_, fun search files cwd shelf =>
    search.load_loads files cwd shelf⟩
  have orderly := run_orderly (initial_orderly native engines) (initial_sound native engines) all ran
  have refers : w.Refers request.bridge :=
    .inr (.inr (.inl ⟨_, orderly.tracked request waits, rfl⟩))
  exact ⟨refers, (sound.frees_eq request.bridge).1 refers⟩

/-- A call is dropped, then the handle, and then the engine calls back. -/
def lateAnswer : List (Action Script) :=
  [.start 0 "request" none, .poll 0 false, .drop 0, .letGo 0, .complete ⟨0, 1, .invalidArgument, none⟩]

theorem engine_lifetime_lateAnswer : ∃ answers w,
    run (fun _ => Script.library) lateAnswer (initial .empty fun _ => .owned 7) = .ok (answers, w) ∧
      (w.exchange.bridges 0).frees = [7] ∧
      Lifetime (fun _ => Script.library) (fun _ => .owned 7) w :=
  ⟨_, _, rfl, rfl, (engine_lifetime .empty (fun _ => .owned 7) lateAnswer _ _ rfl).1⟩

end World

end EngineBridge
