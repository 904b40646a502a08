import EngineBridge.Calls.Stages
/-!
# Callers and engines side by side

A `World` is the exchange together with everybody who acts on it: the handles of the bridges,
the futures that callers hold, and the tasks that threads are in the middle of.  An `Action`
is one step of one of them, in any order: handles are cloned and dropped, futures started,
polled and dropped, engines call back, and the arena is resumed directly.

A callback may be one action, or be entered and then advance stage by stage while others act.
A thread is in the middle of one task at a time, and an engine enters a callback only for a
request that it was given.
-/

namespace EngineBridge

/-- A call as its caller holds it, perhaps with a limit. -/
structure Future where
  bridge : BridgeId
  request : String
  limit : Option Duration
  call : Call

/-- What a thread is in the middle of. -/
inductive Work where
  | callback (callback : Callback) (stage : Stage)
  | codec (call : CodecCall) (stage : CodecStage)

/-- A thread at work for the engine of a bridge. -/
structure Task where
  thread : ThreadId
  engine : BridgeId
  work : Work

/-- The token whose outcome a task is about to send. -/
def Work.inHand? : Work → Option Token
  | .callback report (.lowering ..) => some report.context
  | .callback report (.sending ..) => some report.context
  | _ => none

/-- The exchange and everybody who acts on it. -/
structure World (σ : Type) where
  exchange : Exchange σ
  /-- How many handles each bridge has. -/
  handles : BridgeId → Nat
  futures : List Future
  tasks : List Task

inductive Action (σ : Type) where
  /-- A handle is cloned. -/
  | clone (bridge : BridgeId)
  /-- A handle is dropped. -/
  | letGo (bridge : BridgeId)
  /-- A caller makes a call, perhaps with a limit; nothing is handed over yet. -/
  | start (bridge : BridgeId) (request : String) (limit : Option Duration)
  /-- A caller looks at a call; its limit has passed or has not. -/
  | poll (place : Nat) (passed : Bool)
  /-- A caller drops a call. -/
  | drop (place : Nat)
  /-- A callback from its entry to its return, for any token. -/
  | complete (callback : Callback)
  /-- The arena is resumed directly. -/
  | resume (token : Token) (outcome : Outcome)
  /-- The native side moves on. -/
  | work (native : σ)
  /-- The native side moves on, and an engine enters the callback of a request. -/
  | enter (bridge : BridgeId) (callback : Callback) (native : σ)
  /-- A thread begins a codec call. -/
  | call (thread : ThreadId) (bridge : BridgeId) (call : CodecCall)
  /-- A task goes through one stage. -/
  | advance (place : Nat)

/-- What an action answers to whoever acts. -/
inductive Answer where
  | done
  | progress (progress : Progress)
  | resumed (result : Except Violation Resumed)
  | codec (result : CodecResult)

/-- Why an action does not happen. -/
inductive Halt where
  /-- There is nobody to take it. -/
  | refused
  /-- The process is aborted. -/
  | violation (violation : Violation)

namespace World

variable {σ : Type} (libraries : BridgeId → NativeLibrary σ)

def initial (native : σ) (engines : BridgeId → EngineHandle) : World σ :=
  ⟨.initial native engines, fun _ => 1, [], []⟩

/-- The tokens whose outcomes are about to be sent. -/
def inHand (w : World σ) : List Token := w.tasks.filterMap fun task => task.work.inHand?

def isIdle (thread : ThreadId) (w : World σ) : Bool :=
  w.tasks.all fun task => task.thread ≠ thread

/-- Whether the engine of a bridge was given a request and has not called back for it. -/
def isOutstanding (token : Token) (bridge : BridgeId) (w : World σ) : Bool :=
  w.exchange.requests.any fun request => request.token = token ∧ request.bridge = bridge

def poll (place : Nat) (passed : Bool) (w : World σ) : Except Halt (Answer × World σ) :=
  match w.futures[place]? with
  | none => .error .refused
  | some future =>
    match w.exchange.pollWithin libraries w.inHand future.limit passed future.call with
    | .error violation => .error (.violation violation)
    | .ok (progress, call, x) =>
      .ok (.progress progress,
        { w with exchange := x, futures := w.futures.set place { future with call := call } })

def drop (place : Nat) (w : World σ) : Except Halt (Answer × World σ) :=
  match w.futures[place]? with
  | none => .error .refused
  | some future =>
    .ok (.done,
      { w with
        exchange := w.exchange.drop future.call
        futures := w.futures.set place { future with call := .gone } })

def enter (bridge : BridgeId) (callback : Callback) (native : σ) (w : World σ) :
    Except Halt (Answer × World σ) :=
  if w.isIdle callback.thread ∧ w.isOutstanding callback.context bridge then
    .ok (.done,
      { w with
        exchange := { w.exchange with native := native }.enter callback.context
        tasks := ⟨callback.thread, bridge, .callback callback .looking⟩ :: w.tasks })
  else .error .refused

/-- A thread begins a codec call, with a handle of its own. -/
def call (thread : ThreadId) (bridge : BridgeId) (call : CodecCall) (w : World σ) :
    Except Halt (Answer × World σ) :=
  if w.isIdle thread ∧ 0 < w.handles bridge then
    let (stage, native) := (libraries bridge).beginCodec thread call w.exchange.native
    .ok (.done,
      { w with
        exchange := { w.exchange with native := native }.retain bridge
        tasks := ⟨thread, bridge, .codec call stage⟩ :: w.tasks })
  else .error .refused

def advance (place : Nat) (w : World σ) : Except Halt (Answer × World σ) :=
  match w.tasks[place]? with
  | none => .error .refused
  | some ⟨thread, engine, .callback callback stage⟩ =>
    match w.exchange.advance libraries callback stage with
    | .error violation => .error (.violation violation)
    | .ok (none, x) => .ok (.done, { w with exchange := x, tasks := w.tasks.eraseIdx place })
    | .ok (some stage, x) =>
      .ok (.done,
        { w with
          exchange := x
          tasks := w.tasks.set place ⟨thread, engine, .callback callback stage⟩ })
  | some ⟨_, engine, .codec _ (.freeing [] result)⟩ =>
    .ok (.codec result,
      { w with exchange := w.exchange.release engine, tasks := w.tasks.eraseIdx place })
  | some ⟨thread, engine, .codec call stage⟩ =>
    let (stage, native) :=
      (libraries engine).advanceCodec thread call stage w.exchange.native
    .ok (.done,
      { w with
        exchange := { w.exchange with native := native }
        tasks := w.tasks.set place ⟨thread, engine, .codec call stage⟩ })

def step (action : Action σ) (w : World σ) : Except Halt (Answer × World σ) :=
  match action with
  | .clone bridge =>
    if 0 < w.handles bridge then
      .ok (.done,
        { w with
          exchange := w.exchange.retain bridge
          handles := setAt w.handles bridge (w.handles bridge + 1) })
    else .error .refused
  | .letGo bridge =>
    if 0 < w.handles bridge then
      .ok (.done,
        { w with
          exchange := w.exchange.release bridge
          handles := setAt w.handles bridge (w.handles bridge - 1) })
    else .error .refused
  | .start bridge request limit =>
    if 0 < w.handles bridge then
      let (call, x) := w.exchange.newCall bridge request
      .ok (.done,
        { w with exchange := x, futures := w.futures ++ [⟨bridge, request, limit, call⟩] })
    else .error .refused
  | .poll place passed => w.poll libraries place passed
  | .drop place => w.drop place
  | .complete callback =>
    match w.exchange.complete libraries callback with
    | .error violation => .error (.violation violation)
    | .ok x => .ok (.done, { w with exchange := x })
  | .resume token outcome =>
    let (result, x) := w.exchange.resume token outcome
    .ok (.resumed result, { w with exchange := x })
  | .work native => .ok (.done, { w with exchange := { w.exchange with native := native } })
  | .enter bridge callback native => w.enter bridge callback native
  | .call thread bridge call => w.call libraries thread bridge call
  | .advance place => w.advance libraries place

/-- Actions in order, and what they answer; the first one that does not happen ends the run. -/
def run : List (Action σ) → World σ → Except Halt (List Answer × World σ)
  | [], w => .ok ([], w)
  | action :: actions, w =>
    match w.step libraries action with
    | .error halt => .error halt
    | .ok (answer, w) =>
      match run actions w with
      | .error halt => .error halt
      | .ok (answers, w) => .ok (answer :: answers, w)

end World

end EngineBridge
