import EngineBridge.Native.RawCalls
/-!
# Requests of those who call `conduit_execute` themselves

A request is called with a pointer to an engine and a pointer to a text, either of which may be
null.  One that is refused is completed on the thread of its caller before the call returns; any
other waits for one of the engine's workers, which takes it up when it pleases and completes it on
its own thread.  A thread that has completed a request enters the callback next, and does nothing
else in between; other threads may.  Inside the callback and after it the thread may make any call.
-/

namespace EngineBridge

/-- An engine that has not been freed, and the threads that work for it. -/
structure LiveEngine where
  engine : Engine
  workers : List ThreadId
  staffed : workers ≠ []

/-- A call that asks an engine for something; a pointer that is null leads to nothing. -/
structure ExecuteCall where
  caller : ThreadId
  engine : Option LiveEngine
  request : Option CText
  context : Token

namespace ExecuteCall

/-- The engine and the text that a call puts to work, or why it is refused. -/
def submission (call : ExecuteCall) : Except EngineError (Engine × String) :=
  EngineSide.submission (call.engine.map (·.engine)) call.request

def workers (call : ExecuteCall) : List ThreadId :=
  match call.engine with
  | some live => live.workers
  | none => []

end ExecuteCall

/-- A request that no worker has taken up. -/
structure WaitingRequest where
  /-- How many calls were made before. -/
  number : Nat
  call : ExecuteCall
  engine : Engine
  text : String

/-- A callback that its thread enters next. -/
structure DueCallback where
  number : Nat
  callback : Callback
  /-- What the thread's last error was when it took the request up. -/
  before : Option String

/-- A callback that was entered. -/
structure EnteredCallback extends DueCallback where
  /-- What the thread's last error was at that moment. -/
  lastError : Option String

/-- The native side, the requests that were called, and how far each has got. -/
structure RawRequests where
  raw : RawSide
  calls : List ExecuteCall
  waiting : List WaitingRequest
  due : List DueCallback
  /-- The callbacks that were entered, the last one first. -/
  entered : List EnteredCallback

namespace RawRequests

inductive Action where
  | call (call : RawCall)
  | execute (call : ExecuteCall)
  /-- A worker takes up the request at a place among those that wait. -/
  | work (worker : ThreadId) (place : Nat)
  /-- The callback at a place among those that are due is entered. -/
  | enter (place : Nat)

def start (raw : RawSide) : RawRequests := ⟨raw, [], [], [], []⟩

/-- Whether a thread can do something other than to enter a callback. -/
def isFree (thread : ThreadId) (s : RawRequests) : Bool :=
  s.due.all fun due => due.callback.thread ≠ thread

/-- A request has come to a result on a thread. -/
def settle (number : Nat) (call : ExecuteCall) (thread : ThreadId)
    (result : Except EngineError String) (s : RawRequests) : RawRequests :=
  let (callback, side) := s.raw.side.complete thread call.context result
  { s with
    raw := { s.raw with side := side }
    due := ⟨number, callback, s.raw.side.lastError thread⟩ :: s.due }

/-- A request is called: it is refused, or it waits. -/
def submit (call : ExecuteCall) (s : RawRequests) : RawRequests :=
  let number := s.calls.length
  let s := { s with calls := s.calls ++ [call] }
  match call.submission with
  | .error error => s.settle number call call.caller (.error error)
  | .ok (engine, text) => { s with waiting := s.waiting ++ [⟨number, call, engine, text⟩] }

def step (compress : List UInt8 → List UInt8) (action : Action) (s : RawRequests) :
    Option RawRequests :=
  match action with
  | .call call =>
    if call.thread?.all fun thread => s.isFree thread then
      (s.raw.step compress call).map fun (_, raw) => { s with raw := raw }
    else none
  | .execute call => if s.isFree call.caller then some (s.submit call) else none
  | .work worker place =>
    match s.waiting[place]? with
    | none => none
    | some request =>
      if worker ∈ request.call.workers ∧ s.isFree worker then
        let s := { s with waiting := s.waiting.eraseIdx place }
        some (s.settle request.number request.call worker (request.engine.dispatch request.text))
      else none
  | .enter place =>
    match s.due[place]? with
    | none => none
    | some due =>
      let entered := ⟨due, s.raw.side.lastError due.callback.thread⟩
      some { s with due := s.due.eraseIdx place, entered := entered :: s.entered }

/-- Things happen in order; none if one of them cannot. -/
def run (compress : List UInt8 → List UInt8) : List Action → RawRequests → Option RawRequests
  | [], s => some s
  | action :: actions, s => (s.step compress action).bind (run compress actions)

end RawRequests

end EngineBridge
