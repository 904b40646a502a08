import EngineBridge.Calls.World
import EngineBridge.Native.Host
/-!
# A reference engine that serves callers

A `Service` is a world around one engine at work.  Callers act as they like and threads go
through the stages of what they are in the middle of; the engine's part is its own: a thread
that is free takes up any job, runs its operation and records a failure, and then enters the
callback of the request, while other threads go on.  From the one to the other the thread does
nothing else.

Handing a request over is one step, since a job that nobody has taken up yet is as good as a
request that is still on its way.
-/

namespace EngineBridge

/-- Whether an action is one of callers, or a stage of what a thread is in the middle of. -/
def Action.isServed {σ : Type} : Action σ → Bool
  | complete _ => false
  | resume .. => false
  | work _ => false
  | enter .. => false
  | _ => true

/-- The thread that begins an engine call with an action. -/
def Action.thread? {σ : Type} : Action σ → Option ThreadId
  | call thread .. => some thread
  | _ => none

/-- A world around an engine at work. -/
structure Service where
  world : World Host
  /-- The callbacks that threads are about to enter. -/
  ready : List Callback

inductive Turn where
  /-- A caller acts, or a thread goes through one stage. -/
  | act (action : Action Host)
  /-- A thread runs the operation of the job at a place. -/
  | finish (thread : ThreadId) (place : Nat)
  /-- The thread of the callback at a place enters it. -/
  | report (place : Nat)

namespace Service

def libraries : BridgeId → NativeLibrary Host := fun _ => Host.library

/-- The engine on the native side. -/
def host (s : Service) : Host := s.world.exchange.native

/-- A service for which nothing has happened. -/
def initial (host : Host) (engines : BridgeId → EngineHandle) : Service :=
  ⟨.initial host engines, []⟩

/-- Whether a thread is not in the middle of an engine call. -/
def isFree (thread : ThreadId) (s : Service) : Bool :=
  s.world.isIdle thread && s.ready.all fun callback => callback.thread ≠ thread

/-- The world takes a step, and other callbacks are about to be entered. -/
def after (action : Action Host) (ready : List Callback) (s : Service) :
    Except Halt (Answer × Service) :=
  match s.world.step libraries action with
  | .error halt => .error halt
  | .ok (answer, w) => .ok (answer, ⟨w, ready⟩)

def act (action : Action Host) (s : Service) : Except Halt (Answer × Service) :=
  if action.isServed ∧ action.thread?.all fun thread => s.isFree thread then
    s.after action s.ready
  else .error .refused

/-- A thread runs the operation of the job at a place. -/
def finish (thread : ThreadId) (place : Nat) (s : Service) : Except Halt (Answer × Service) :=
  match s.host.jobs[place]? with
  | none => .error .refused
  | some job =>
    if s.isFree thread then
      let (callback, host) := s.host.finishOn thread job
      s.after (.work host) (callback :: s.ready)
    else .error .refused

/-- The thread of the callback at a place enters it. -/
def report (place : Nat) (s : Service) : Except Halt (Answer × Service) :=
  match s.ready[place]? with
  | none => .error .refused
  | some callback =>
    match s.world.exchange.requests.find? fun request => request.token = callback.context with
    | none => .error .refused
    | some request =>
      s.after (.enter request.bridge callback s.host) (s.ready.eraseIdx place)

def step (turn : Turn) (s : Service) : Except Halt (Answer × Service) :=
  match turn with
  | .act action => s.act action
  | .finish thread place => s.finish thread place
  | .report place => s.report place

/-- Turns in order, and what they answer; the first one that does not happen ends the run. -/
def run : List Turn → Service → Except Halt (List Answer × Service)
  | [], s => .ok ([], s)
  | turn :: turns, s =>
    match s.step turn with
    | .error halt => .error halt
    | .ok (answer, s) =>
      match run turns s with
      | .error halt => .error halt
      | .ok (answers, s) => .ok (answer :: answers, s)

end Service

end EngineBridge
