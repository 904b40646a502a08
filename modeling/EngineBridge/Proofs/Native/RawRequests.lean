import EngineBridge.Native.RawRequests
import EngineBridge.Proofs.Native.RawCalls
import Mathlib.Data.List.Nodup
import Mathlib.Data.List.Perm.Basic
/-!
# Requests are called back once: `conduit_execute`

`executes_call_back_once`: however requests of several callers, workers, other calls and callbacks
come between each other, no request is called back twice, each is called back when nothing is left
to do, and each callback tells in its status, its response and its thread's last error the one
thing that the request came to.

What a request comes to is told by its arguments (`ComesTo`), where it does by whether they can be
used (`IsUsable`).  A request is at one place at a time: it waits, its callback is due, or it was
entered; `Sound` keeps the numbers of the requests at these places, and what a callback will tell
from the moment its thread has come to a result.  Other threads get in between before it is
entered, but none of them acts for that thread.
-/

namespace EngineBridge

/-! ## What a request comes to -/

namespace ExecuteCall

variable {call : ExecuteCall} {live other : LiveEngine} {text : String} {error : EngineError}

/-- There is an engine, and a request that is a text. -/
def IsUsable (call : ExecuteCall) : Prop :=
  call.engine ≠ none ∧ ∃ sent text, call.request = some sent ∧ sent.decode = .ok text

/-- Why a request is refused; the engine is looked at first. -/
inductive Refused (call : ExecuteCall) : EngineError → Prop where
  | engine (null : call.engine = none) : Refused call (.invalidArgument "null engine")
  | request {live : LiveEngine} {error : EngineError} (engine : call.engine = some live)
      (refuses : EngineSide.Refuses "request" call.request error) : Refused call error

/-- The engine that a request goes to, and its text. -/
def GoesTo (call : ExecuteCall) (live : LiveEngine) (text : String) : Prop :=
  call.engine = some live ∧ EngineSide.Reads call.request text

/-- What a request comes to. -/
inductive ComesTo (call : ExecuteCall) : Except EngineError String → Prop where
  | refused {error : EngineError} (refused : call.Refused error) : ComesTo call (.error error)
  /-- The text is no JSON, or names no operation of the engine. -/
  | unselected {live : LiveEngine} {text : String} {error : EngineError}
      (goes : call.GoesTo live text) (unselected : live.engine.select text = .error error) :
      ComesTo call (.error error)
  | responded {live : LiveEngine} {text : String} {handler : Handler} {json value : Json}
      (goes : call.GoesTo live text) (selected : live.engine.select text = .ok (handler, json))
      (responds : handler.react json = .respond value) : ComesTo call (.ok value.text)
  | failed {live : LiveEngine} {text : String} {handler : Handler} {json : Json}
      {error : EngineError} (goes : call.GoesTo live text)
      (selected : live.engine.select text = .ok (handler, json))
      (fails : handler.react json = .fail error) : ComesTo call (.error error)
  | panicked {live : LiveEngine} {text : String} {handler : Handler} {json : Json}
      {payload : Option String} (goes : call.GoesTo live text)
      (selected : live.engine.select text = .ok (handler, json))
      (panics : handler.react json = .panic payload) :
      ComesTo call (.error (.panicked (payload.getD "unknown panic")))

theorem submission_null (null : call.engine = none) :
    call.submission = .error (.invalidArgument "null engine") := by
  simp [submission, EngineSide.submission, null]

/-- With an engine a request is used as a text that must be there. -/
theorem submission_live (engine : call.engine = some live) :
    call.submission =
      (EngineSide.requiredText "request" call.request).map fun text => (live.engine, text) := by
  rw [submission, engine, EngineSide.requiredText]
  cases argument : EngineSide.textArgument "request" call.request with
  | error error => simp [EngineSide.submission, argument, Except.map]
  | ok text => cases text <;> simp [EngineSide.submission, argument, Except.map]

theorem submission_ok_iff {engine : Engine} :
    call.submission = .ok (engine, text) ↔
      ∃ live, call.GoesTo live text ∧ live.engine = engine := by
  cases is : call.engine with
  | none => simp [submission_null is, GoesTo, is]
  | some live =>
    rw [submission_live is]
    have reads : EngineSide.requiredText "request" call.request = .ok text ↔
        EngineSide.Reads call.request text := EngineSide.requiredText_ok_iff
    simp only [GoesTo, is, Option.some.injEq, ← reads]
    cases EngineSide.requiredText "request" call.request <;> simp [Except.map, and_comm]

theorem submission_error_iff : call.submission = .error error ↔ call.Refused error := by
  constructor
  · intro is
    cases engine : call.engine with
    | none =>
      rw [submission_null engine, Except.error.injEq] at is
      exact is ▸ .engine engine
    | some live =>
      rw [submission_live engine] at is
      refine .request engine (EngineSide.requiredText_error_iff.1 ?_)
      cases read : EngineSide.requiredText "request" call.request <;>
        simp_all [Except.map]
  · rintro (null | ⟨engine, refuses⟩)
    · exact submission_null null
    · rw [submission_live engine, EngineSide.requiredText_error_iff.2 refuses]
      rfl

/-- What a request comes to, computed. -/
def result (call : ExecuteCall) : Except EngineError String :=
  match call.submission with
  | .error error => .error error
  | .ok (engine, text) => engine.dispatch text

theorem ComesTo.result_eq {result : Except EngineError String} (comes : call.ComesTo result) :
    call.result = result := by
  cases comes with
  | refused refused => rw [ExecuteCall.result, submission_error_iff.2 refused]
  | unselected goes unselected =>
    rw [ExecuteCall.result, submission_ok_iff.2 ⟨_, goes, rfl⟩]
    simp [Engine.dispatch, unselected, bind, Except.bind]
  | responded goes selected reacts | failed goes selected reacts | panicked goes selected reacts =>
    rw [ExecuteCall.result, submission_ok_iff.2 ⟨_, goes, rfl⟩]
    simp [Engine.dispatch, selected, Handler.run, reacts, Handler.unknownPanic, bind, Except.bind,
      pure, Except.pure]

/-- **What a request comes to** is one thing. -/
theorem comesTo_iff {result : Except EngineError String} :
    call.ComesTo result ↔ call.result = result := by
  refine ⟨ComesTo.result_eq, ?_⟩
  rintro rfl
  -- there is only one thing it can come to, so it is enough that it comes to something
  suffices comes : ∃ result, call.ComesTo result by
    obtain ⟨result, comes⟩ := comes
    exact comes.result_eq ▸ comes
  cases submitted : call.submission with
  | error error => exact ⟨_, .refused (submission_error_iff.1 submitted)⟩
  | ok pair =>
    obtain ⟨engine, text⟩ := pair
    obtain ⟨live, goes, -⟩ := submission_ok_iff.1 submitted
    cases selected : live.engine.select text with
    | error error => exact ⟨_, .unselected goes selected⟩
    | ok chosen =>
      obtain ⟨handler, json⟩ := chosen
      cases reacts : handler.react json with
      | respond value => exact ⟨_, .responded goes selected reacts⟩
      | fail error => exact ⟨_, .failed goes selected reacts⟩
      | panic payload => exact ⟨_, .panicked goes selected reacts⟩

/-- A request that succeeds has the text of a value for its response. -/
theorem ComesTo.value_text (comes : call.ComesTo (.ok text)) :
    ∃ value : Json, text = value.text := by
  cases comes with
  | responded => exact ⟨_, rfl⟩

theorem isUsable_iff : call.IsUsable ↔ ∃ live text, call.GoesTo live text := by
  obtain ⟨caller, engine, request, context⟩ := call
  cases engine <;> cases request <;> simp [IsUsable, GoesTo, EngineSide.Reads]

/-- A request is refused exactly if it cannot be used, and then as an invalid argument. -/
theorem not_isUsable_iff : ¬ call.IsUsable ↔ ∃ error, call.Refused error := by
  rw [isUsable_iff]
  constructor
  · intro none
    cases submitted : call.submission with
    | error error => exact ⟨error, submission_error_iff.1 submitted⟩
    | ok pair =>
      obtain ⟨live, goes, -⟩ := submission_ok_iff.1 submitted
      exact absurd ⟨live, _, goes⟩ none
  · rintro ⟨error, refused⟩ ⟨live, text, goes⟩
    have accepted := submission_ok_iff.2 ⟨live, goes, rfl⟩
    simp [submission_error_iff.2 refused] at accepted

theorem Refused.status (refused : call.Refused error) : error.status = .invalidArgument := by
  cases refused with
  | engine => rfl
  | request _ refuses =>
    generalize call.request = request at refuses
    cases refuses <;> rfl

theorem GoesTo.workers (goes : call.GoesTo live text) : call.workers = live.workers := by
  rw [ExecuteCall.workers, goes.1]

end ExecuteCall

/-! ## What a callback tells -/

namespace DueCallback

/-- A callback tells a result, in its status, its response and its thread's last error. -/
def Tells (due : DueCallback) (lastError : Option String) : Except EngineError String → Prop
  | .ok text =>
    due.callback.status = Status.ok ∧
      (∃ sent, due.callback.response = some sent ∧ sent.bytes = Utf8.encode text) ∧
      lastError = due.before
  | .error error =>
    due.callback.status = error.status ∧ error.status ≠ Status.ok ∧ due.callback.response = none ∧
      lastError = some error.record.text

/-- A callback is that of a call. -/
structure Answers (due : DueCallback) (call : ExecuteCall) (lastError : Option String) : Prop where
  context : due.callback.context = call.context
  tells : due.Tells lastError call.result
  /-- A request that cannot be used is completed on its caller's thread. -/
  onCaller : ¬ call.IsUsable → due.callback.thread = call.caller
  onWorker : call.IsUsable → due.callback.thread ∈ call.workers

end DueCallback

namespace EngineSide

variable {thread : ThreadId} {context : Token} {result : Except EngineError String}
  {side : EngineSide}

theorem complete_thread : (side.complete thread context result).1.thread = thread := by
  simp only [complete]
  split <;> rfl

theorem complete_context : (side.complete thread context result).1.context = context := by
  simp only [complete]
  split <;> rfl

theorem complete_callbacks :
    (side.complete thread context result).2.counters.callbacks = side.counters.callbacks + 1 := by
  simp only [complete]
  split <;> rfl

/-- Completing a request leaves the last errors of other threads alone. -/
theorem complete_others {t : ThreadId} (other : t ≠ thread) :
    (side.complete thread context result).2.lastError t = side.lastError t := by
  simp only [complete]
  split
  · rfl
  · exact record_lastError_of_ne _ other

theorem complete_tells {number : Nat}
    (values : ∀ text, result = .ok text → ∃ value : Json, text = value.text) :
    DueCallback.Tells ⟨number, (side.complete thread context result).1, side.lastError thread⟩
      ((side.complete thread context result).2.lastError thread) result := by
  cases result with
  | ok text =>
    obtain ⟨value, rfl⟩ := values text rfl
    have noNul := (Json.text_plain value).noNul
    simp only [complete, responseOf, CText.ofBytes, noNul, dite_false]
    exact ⟨rfl, ⟨_, rfl, rfl⟩, rfl⟩
  | error error => exact ⟨rfl, error.status_ne_ok, rfl, record_lastError error⟩

end EngineSide

namespace RawRequests

variable {compress : List UInt8 → List UInt8} {raw : RawSide} {s s' : RawRequests}
  {action : Action} {actions : List Action} {call : ExecuteCall} {thread : ThreadId} {number : Nat}

/-! ## What can happen -/

/-- What an action leaves. -/
inductive Happens (compress : List UInt8 → List UInt8) (s : RawRequests) :
    Action → RawRequests → Prop where
  | called {call : RawCall} {answer : RawAnswer} {raw : RawSide}
      (free : ∀ thread, call.thread? = some thread → s.isFree thread)
      (steps : RawSide.Steps compress s.raw call answer raw) :
      Happens compress s (.call call) { s with raw := raw }
  | refused {call : ExecuteCall} {error : EngineError} (free : s.isFree call.caller)
      (refused : call.Refused error) :
      Happens compress s (.execute call)
        (({ s with calls := s.calls ++ [call] } : RawRequests).settle s.calls.length call
          call.caller (.error error))
  | accepted {call : ExecuteCall} {engine : Engine} {text : String} (free : s.isFree call.caller)
      (accepted : call.submission = .ok (engine, text)) :
      Happens compress s (.execute call)
        { s with
          calls := s.calls ++ [call]
          waiting := s.waiting ++ [⟨s.calls.length, call, engine, text⟩] }
  | worked {worker : ThreadId} {place : Nat} {request : WaitingRequest}
      (found : s.waiting[place]? = some request) (staff : worker ∈ request.call.workers)
      (free : s.isFree worker) :
      Happens compress s (.work worker place)
        (({ s with waiting := s.waiting.eraseIdx place } : RawRequests).settle request.number
          request.call worker (request.engine.dispatch request.text))
  | entered {place : Nat} {due : DueCallback} (found : s.due[place]? = some due) :
      Happens compress s (.enter place)
        { s with
          due := s.due.eraseIdx place
          entered := ⟨due, s.raw.side.lastError due.callback.thread⟩ :: s.entered }

/-- **What can happen.** -/
theorem step_happens (stepped : s.step compress action = some s') :
    Happens compress s action s' := by
  cases action with
  | call call =>
    simp only [step] at stepped
    split at stepped
    · rename_i free
      simp only [Option.map_eq_some_iff, Prod.exists] at stepped
      obtain ⟨answer, raw, made, rfl⟩ := stepped
      refine .called (fun thread acts => ?_) (RawSide.step_steps made)
      simpa [acts] using free
    · cases stepped
  | execute call =>
    simp only [step] at stepped
    split at stepped
    · rename_i free
      obtain rfl := Option.some.inj stepped
      rw [submit]
      cases submitted : call.submission with
      | error error => exact .refused free (ExecuteCall.submission_error_iff.1 submitted)
      | ok pair => exact .accepted free submitted
    · cases stepped
  | work worker place =>
    simp only [step] at stepped
    split at stepped
    · cases stepped
    · rename_i request found
      split at stepped
      · rename_i can
        obtain rfl := Option.some.inj stepped
        exact .worked found can.1 can.2
      · cases stepped
  | enter place =>
    simp only [step] at stepped
    split at stepped
    · cases stepped
    · rename_i due found
      obtain rfl := Option.some.inj stepped
      exact .entered found

theorem isFree_iff : s.isFree thread ↔ ∀ due ∈ s.due, due.callback.thread ≠ thread := by
  simp [isFree]

/-! ## What always holds -/

/-- The number of each request, at the place where it is. -/
def places (s : RawRequests) : List Nat :=
  s.waiting.map (·.number) ++ s.due.map (·.number) ++ s.entered.map (·.number)

/-- Each request is at one place, save for those in a list, which are just being moved; it is known
what waits there, and what callbacks tell. -/
structure Sound (raw : RawSide) (moved : List Nat) (s : RawRequests) : Prop where
  numbers : (moved ++ s.places).Perm (List.range s.calls.length)
  waiting : ∀ request ∈ s.waiting, s.calls[request.number]? = some request.call ∧
    request.call.submission = .ok (request.engine, request.text)
  due : ∀ due ∈ s.due, ∃ call, s.calls[due.number]? = some call ∧
    due.Answers call (s.raw.side.lastError due.callback.thread)
  entered : ∀ entered ∈ s.entered, ∃ call, s.calls[entered.number]? = some call ∧
    entered.Answers call entered.lastError
  callbacks : s.raw.side.counters.callbacks =
    raw.side.counters.callbacks + s.due.length + s.entered.length

theorem start_sound : Sound raw [] (start raw) := by
  refine ⟨.refl _, nofun, nofun, nofun, rfl⟩

theorem Sound.execute (h : Sound raw [] s) (call : ExecuteCall) :
    Sound raw [s.calls.length] { s with calls := s.calls ++ [call] } := by
  have known {number : Nat} {call' : ExecuteCall} (is : s.calls[number]? = some call') :
      (s.calls ++ [call])[number]? = some call' :=
    (List.getElem?_append_left (List.getElem?_eq_some_iff.1 is).1).trans is
  refine ⟨?_, fun request waits => ?_, fun due is => ?_, fun entered is => ?_, h.callbacks⟩
  · rw [List.length_append, List.length_singleton, List.range_succ]
    exact (h.numbers.cons _).trans (List.perm_append_singleton _ _).symm
  · exact (h.waiting request waits).imp_left known
  · exact (h.due due is).imp fun _ => .imp_left known
  · exact (h.entered entered is).imp fun _ => .imp_left known

theorem Sound.pick {place : Nat} {request : WaitingRequest} (h : Sound raw [] s)
    (found : s.waiting[place]? = some request) :
    Sound raw [request.number] { s with waiting := s.waiting.eraseIdx place } := by
  obtain ⟨inside, rfl⟩ := List.getElem?_eq_some_iff.1 found
  have moved := (List.getElem_cons_eraseIdx_perm inside).map (·.number)
  refine ⟨.trans ?_ h.numbers, fun request waits => ?_, h.due, h.entered, h.callbacks⟩
  · simpa only [places, List.map_cons, List.nil_append, List.append_assoc, List.cons_append] using
      moved.append_right (s.due.map (·.number) ++ s.entered.map (·.number))
  · exact h.waiting request (List.mem_of_mem_eraseIdx waits)

/-- A request that is completed on a free thread has its callback due. -/
theorem Sound.settle (h : Sound raw [number] s) (known : s.calls[number]? = some call)
    (free : s.isFree thread) (onCaller : ¬ call.IsUsable → thread = call.caller)
    (onWorker : call.IsUsable → thread ∈ call.workers) :
    Sound raw [] (s.settle number call thread call.result) := by
  have values (text : String) (is : call.result = .ok text) : ∃ value : Json, text = value.text :=
    (ExecuteCall.comesTo_iff.2 is).value_text
  refine ⟨.trans ?_ h.numbers, h.waiting, ?_, h.entered, ?_⟩
  · simp only [places, RawRequests.settle, List.map_cons, List.nil_append, List.append_assoc,
      List.cons_append]
    exact List.perm_middle
  · simp only [RawRequests.settle, List.forall_mem_cons]
    refine ⟨⟨call, known, ⟨EngineSide.complete_context, ?_, ?_, ?_⟩⟩, fun due is => ?_⟩
    · rw [EngineSide.complete_thread]
      exact EngineSide.complete_tells values
    · rwa [EngineSide.complete_thread]
    · rwa [EngineSide.complete_thread]
    · -- the others are due on other threads
      rw [EngineSide.complete_others (isFree_iff.1 free due is)]
      exact h.due due is
  · simp only [RawRequests.settle, EngineSide.complete_callbacks, h.callbacks, List.length_cons]
    omega

/-- **What holds, holds after whatever happens.** -/
theorem Sound.step (h : Sound raw [] s) (happens : Happens compress s action s') :
    Sound raw [] s' := by
  cases happens with
  | @called call answer raw' free steps =>
    refine ⟨h.numbers, h.waiting, fun due is => ?_, h.entered, steps.callbacks.trans h.callbacks⟩
    rw [steps.others fun acts => isFree_iff.1 (free _ acts) due is rfl]
    exact h.due due is
  | @refused call error free refused =>
    have unusable : ¬ call.IsUsable := ExecuteCall.not_isUsable_iff.2 ⟨error, refused⟩
    have result := (ExecuteCall.ComesTo.refused refused).result_eq
    have known : (s.calls ++ [call])[s.calls.length]? = some call := by simp
    exact result ▸ (h.execute call).settle known free (fun _ => rfl) fun usable =>
      absurd usable unusable
  | @accepted call engine text free accepted =>
    obtain ⟨numbers, waiting, due, entered, callbacks⟩ := h.execute call
    refine ⟨.trans ?_ numbers, fun request waits => ?_, due, entered, callbacks⟩
    · simp only [places, List.map_append, List.map_cons, List.map_nil, List.nil_append,
        List.append_assoc, List.cons_append]
      exact List.perm_middle
    · rcases List.mem_append.1 waits with waits | waits
      · exact waiting request waits
      · obtain rfl := List.mem_singleton.1 waits
        exact ⟨by simp, accepted⟩
  | @worked worker place request found staff free =>
    obtain ⟨known, submitted⟩ := h.waiting request (List.mem_of_getElem? found)
    obtain ⟨live, goes, -⟩ := ExecuteCall.submission_ok_iff.1 submitted
    have usable : request.call.IsUsable := ExecuteCall.isUsable_iff.2 ⟨live, _, goes⟩
    have result : request.call.result = request.engine.dispatch request.text := by
      rw [ExecuteCall.result, submitted]
    exact result ▸ (h.pick found).settle known free (fun unusable => absurd usable unusable)
      fun _ => staff
  | @entered place due found =>
    obtain ⟨inside, rfl⟩ := List.getElem?_eq_some_iff.1 found
    refine ⟨.trans ?_ h.numbers, h.waiting,
      fun due is => h.due due (List.mem_of_mem_eraseIdx is), ?_, ?_⟩
    · have moved := (List.getElem_cons_eraseIdx_perm inside).map (·.number)
      simp only [places, List.map_cons, List.nil_append, List.append_assoc]
      refine .append_left _ (.trans List.perm_middle ?_)
      exact moved.append_right _
    · exact List.forall_mem_cons.2 ⟨h.due _ (List.getElem_mem inside), h.entered⟩
    · have fewer := List.length_eraseIdx_add_one inside
      simp only [h.callbacks, List.length_cons]
      omega

/-- **What holds, holds after any run.** -/
theorem Sound.run (h : Sound raw [] s) (ran : run compress actions s = some s') :
    Sound raw [] s' := by
  induction actions generalizing s with
  | nil => exact Option.some.inj ran ▸ h
  | cons action actions ih =>
    obtain ⟨s₁, stepped, further⟩ := Option.bind_eq_some_iff.1 ran
    exact ih (h.step (step_happens stepped)) further

/-! ## What is left to do -/

/-- Whether an action goes on with requests that were called. -/
def Action.GoesOn : Action → Prop
  | .work .. | .enter _ => True
  | .call _ | .execute _ => False

/-- How many actions are left: two for a request that waits, one for a callback that is due. -/
def remaining (s : RawRequests) : Nat := 2 * s.waiting.length + s.due.length

theorem Happens.remaining (happens : Happens compress s action s') (goesOn : action.GoesOn) :
    s'.remaining + 1 = s.remaining ∧ s'.calls = s.calls := by
  cases happens with
  | worked found =>
    have fewer := List.length_eraseIdx_add_one (List.getElem?_eq_some_iff.1 found).1
    refine ⟨?_, rfl⟩
    simp only [RawRequests.remaining, settle, List.length_cons]
    omega
  | entered found =>
    have fewer := List.length_eraseIdx_add_one (List.getElem?_eq_some_iff.1 found).1
    refine ⟨?_, rfl⟩
    simp only [RawRequests.remaining]
    omega
  | called => exact goesOn.elim
  | refused => exact goesOn.elim
  | accepted => exact goesOn.elim

theorem run_remaining (goOn : ∀ action ∈ actions, action.GoesOn)
    (ran : run compress actions s = some s') :
    s'.remaining + actions.length = s.remaining ∧ s'.calls = s.calls := by
  induction actions generalizing s with
  | nil => exact Option.some.inj ran ▸ ⟨rfl, rfl⟩
  | cons action actions ih =>
    obtain ⟨goesOn, goOn⟩ := List.forall_mem_cons.1 goOn
    obtain ⟨s₁, stepped, further⟩ := Option.bind_eq_some_iff.1 ran
    obtain ⟨first, calls₁⟩ := (step_happens stepped).remaining goesOn
    obtain ⟨rest, calls⟩ := ih goOn further
    refine ⟨?_, calls.trans calls₁⟩
    rw [List.length_cons]
    omega

/-- While something is left, something can go on: a callback is entered, or, when none is due, a
worker takes up a request. -/
theorem Sound.goesOn (h : Sound raw [] s) (notDone : s.remaining ≠ 0) :
    ∃ action, action.GoesOn ∧ (s.step compress action).isSome := by
  cases due : s.due with
  | cons callback rest => exact ⟨.enter 0, trivial, by simp [RawRequests.step, due]⟩
  | nil =>
    cases waiting : s.waiting with
    | nil => simp [RawRequests.remaining, due, waiting] at notDone
    | cons request rest =>
      obtain ⟨-, submitted⟩ := h.waiting request (by simp [waiting])
      obtain ⟨live, goes, -⟩ := ExecuteCall.submission_ok_iff.1 submitted
      obtain ⟨worker, staff⟩ := List.exists_mem_of_ne_nil _ live.staffed
      refine ⟨.work worker 0, trivial, ?_⟩
      simp [RawRequests.step, waiting, isFree, due, goes.workers, staff]

/-- Nothing is left once all that can go on has. -/
theorem Sound.finishes (h : Sound raw [] s) :
    ∃ actions s', (∀ action ∈ actions, Action.GoesOn action) ∧
      RawRequests.run compress actions s = some s' ∧ s'.remaining = 0 := by
  -- on how many actions are left; `goesOn` provides one that leaves one less
  induction n : s.remaining generalizing s with
  | zero => exact ⟨[], s, nofun, rfl, n⟩
  | succ n ih =>
    obtain ⟨action, goesOn, can⟩ : ∃ action : Action, action.GoesOn ∧
        (s.step compress action).isSome := h.goesOn (by omega)
    obtain ⟨s₁, stepped⟩ := Option.isSome_iff_exists.1 can
    have happens := step_happens stepped
    obtain ⟨actions, s', goOn, ran, done⟩ := ih (h.step happens) (by
      have := (happens.remaining goesOn).1
      omega)
    refine ⟨action :: actions, s', List.forall_mem_cons.2 ⟨goesOn, goOn⟩, ?_, done⟩
    rw [RawRequests.run, stepped]
    exact ran

/-! ## What calls promise -/

/-- What the callback of a request tells, and on which thread. -/
structure CallsBack (call : ExecuteCall) (entered : EnteredCallback) : Prop where
  context : entered.callback.context = call.context
  /-- The status, the response and the last error tell the one thing that the request comes to. -/
  result : ∃! result, call.ComesTo result ∧ entered.Tells entered.lastError result
  refused : ¬ call.IsUsable → entered.callback.thread = call.caller ∧
    entered.callback.status = Status.invalidArgument
  accepted : call.IsUsable → entered.callback.thread ∈ call.workers
  /-- On a thread that is no worker's, a caller is only told that its request was refused. -/
  onCaller_iff : call.caller ∉ call.workers →
    (entered.callback.thread = call.caller ↔ ¬ call.IsUsable)
  panicked : ∀ live text handler json payload, call.GoesTo live text →
    live.engine.select text = .ok (handler, json) → handler.react json = .panic payload →
      entered.callback.status = Status.panicked ∧ entered.lastError =
        some (EngineError.panicked (payload.getD "unknown panic")).record.text

theorem callsBack_of_answers {entered : EnteredCallback}
    (answers : entered.Answers call entered.lastError) : CallsBack call entered := by
  obtain ⟨context, tells, onCaller, onWorker⟩ := answers
  have told {result : Except EngineError String} (comes : call.ComesTo result) :
      entered.Tells entered.lastError result := comes.result_eq ▸ tells
  refine ⟨context, ⟨call.result, ⟨ExecuteCall.comesTo_iff.2 rfl, tells⟩, fun result both =>
    both.1.result_eq.symm⟩, fun unusable => ⟨onCaller unusable, ?_⟩, onWorker, fun apart => ?_, ?_⟩
  · obtain ⟨error, refused⟩ := ExecuteCall.not_isUsable_iff.1 unusable
    exact (told (.refused refused)).1.trans refused.status
  · refine ⟨fun same usable => apart (same ▸ onWorker usable), onCaller⟩
  · intro live text handler json payload goes selected panics
    have told := told (.panicked goes selected panics)
    exact ⟨told.1, told.2.2.2⟩

/-- What those who call may rely on: `raw` is the native side at the start. -/
structure Promise (compress : List UInt8 → List UInt8) (raw : RawSide) (s : RawRequests) :
    Prop where
  /-- No request is called back twice. -/
  once : (s.entered.map (·.number)).Nodup
  /-- Whatever is called back was called. -/
  calledBack : ∀ entered ∈ s.entered, ∃ call, s.calls[entered.number]? = some call ∧
    CallsBack call entered
  callbacks : s.raw.side.counters.callbacks =
    raw.side.counters.callbacks + s.due.length + s.entered.length
  /-- While something is left, something can go on. -/
  goesOn : s.remaining ≠ 0 → ∃ action, action.GoesOn ∧ (s.step compress action).isSome
  /-- Whatever goes on leaves one less, so that in the end nothing is left. -/
  shortens : ∀ actions s', (∀ action ∈ actions, action.GoesOn) →
    run compress actions s = some s' →
      s'.remaining + actions.length = s.remaining ∧ s'.calls = s.calls
  finishes : ∃ actions s', (∀ action ∈ actions, action.GoesOn) ∧
    run compress actions s = some s' ∧ s'.remaining = 0
  /-- With nothing left each request has been called back, once. -/
  complete : s.remaining = 0 → ∀ number call, s.calls[number]? = some call →
    ∃ entered, s.entered.filter (fun entered => entered.number = number) = [entered] ∧
      CallsBack call entered
  /-- With nothing left the callbacks have grown by one for each request. -/
  counted : s.remaining = 0 →
    s.raw.side.counters.callbacks = raw.side.counters.callbacks + s.calls.length

theorem Sound.once (h : Sound raw [] s) : (s.entered.map (·.number)).Nodup := by
  have apart : s.places.Nodup := h.numbers.nodup_iff.2 List.nodup_range
  exact (List.nodup_append.1 apart).2.1

/-- With nothing left all requests are among those that were called back. -/
theorem Sound.numbers_entered (h : Sound raw [] s) (done : s.remaining = 0) :
    (s.entered.map (·.number)).Perm (List.range s.calls.length) := by
  have waiting : s.waiting = [] := List.eq_nil_of_length_eq_zero (by
    rw [RawRequests.remaining] at done
    omega)
  have due : s.due = [] := List.eq_nil_of_length_eq_zero (by
    rw [RawRequests.remaining] at done
    omega)
  simpa [places, waiting, due] using h.numbers

theorem Sound.complete (h : Sound raw [] s) (done : s.remaining = 0)
    (known : s.calls[number]? = some call) :
    ∃ entered, s.entered.filter (fun entered => entered.number = number) = [entered] ∧
      CallsBack call entered := by
  have inside : number ∈ List.range s.calls.length :=
    List.mem_range.2 (List.getElem?_eq_some_iff.1 known).1
  have counted : (s.entered.map (·.number)).count number = 1 :=
    List.count_eq_one_of_mem h.once ((h.numbers_entered done).mem_iff.2 inside)
  have single : (s.entered.filter fun entered => entered.number = number).length = 1 := by
    rw [← counted, List.count, List.countP_map, List.countP_eq_length_filter]
    rfl
  obtain ⟨entered, is⟩ := List.length_eq_one_iff.1 single
  have found : entered ∈ s.entered.filter fun entered => entered.number = number := by simp [is]
  obtain ⟨among, numbered⟩ := List.mem_filter.1 found
  obtain ⟨call', known', answers⟩ := h.entered entered among
  rw [of_decide_eq_true numbered, known] at known'
  obtain rfl := Option.some.inj known'
  exact ⟨entered, is, callsBack_of_answers answers⟩

/-- **Requests are called back once**, whoever calls them and whatever happens in between. -/
theorem executes_call_back_once (compress : List UInt8 → List UInt8) (raw : RawSide)
    (actions : List Action) (s : RawRequests) (ran : run compress actions (start raw) = some s) :
    Promise compress raw s := by
  have sound : Sound raw [] s := start_sound.run ran
  refine ⟨sound.once, fun entered among => ?_, sound.callbacks, sound.goesOn,
    fun actions s' goOn ran => run_remaining goOn ran, sound.finishes,
    fun done number call known => sound.complete done known, fun done => ?_⟩
  · obtain ⟨call, known, answers⟩ := sound.entered entered among
    exact ⟨call, known, callsBack_of_answers answers⟩
  · have all := (sound.numbers_entered done).length_eq
    rw [List.length_map, List.length_range] at all
    have none_due : s.due.length = 0 := by
      rw [RawRequests.remaining] at done
      omega
    rw [sound.callbacks, none_due, all, Nat.add_zero]

/-- An engine with one worker, and an operation that panics. -/
def panicky : LiveEngine where
  engine := Engine.builtIn.register "boom" (.instant fun _ => .panic none)
  workers := [1000]
  staffed := by decide

/-- A request of that engine for an operation. -/
def asking (caller : ThreadId) (text : String) (noNul : 0 ∉ Utf8.encode text) : ExecuteCall :=
  ⟨caller, some panicky, some ⟨Utf8.encode text, noNul⟩, caller⟩

/-- Three requests, of which the first has no engine, the second panics and the third is answered.
The first one's callback is entered last. -/
def threeRequests : List Action :=
  [.execute ⟨7, none, none, 7⟩,
    .execute (asking 8 "\x7b\"$type\":\"boom\"\x7d" (by decide +kernel)),
    .execute (asking 9 "\x7b\"$type\":\"ping\"\x7d" (by decide +kernel)),
    .work 1000 0, .enter 0, .work 1000 0, .enter 0, .enter 0]

/-- Each of the three is called back, and no more. -/
theorem executes_call_back_once_threeRequests : ∃ s,
    run Zlib.store threeRequests (start .initial) = some s ∧
      s.entered.map (fun entered => (entered.callback.context, entered.callback.status)) =
        [(7, .invalidArgument), (9, .ok), (8, .panicked)] ∧
      s.raw.side.counters.callbacks = 3 ∧ Promise Zlib.store .initial s := by
  have shown : (run Zlib.store threeRequests (start .initial)).map (fun s =>
      (s.entered.map (fun entered => (entered.callback.context, entered.callback.status)),
        s.raw.side.counters.callbacks)) =
    some ([(7, .invalidArgument), (9, .ok), (8, .panicked)], 3) := by
    decide +kernel
  obtain ⟨s, ran, is⟩ := Option.map_eq_some_iff.1 shown
  obtain ⟨told, counted⟩ := Prod.mk.inj is
  exact ⟨s, ran, told, counted, executes_call_back_once Zlib.store .initial threeRequests s ran⟩

end RawRequests

end EngineBridge
