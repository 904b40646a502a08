import EngineBridge.Calls.Exchange
import EngineBridge.Domain.Type
import EngineBridge.Native.Host
/-!
# Executing requests: `Bridge::execute_raw` and its kind

Calls on an engine at work, as time passes: the caller looks at its call, and while there is
no answer the next job of the engine is completed.  A call with a limit is dropped when the
limit passes before the next job is done; its slot stays until the engine answers.
-/

namespace EngineBridge.Exchange

variable (libraries : BridgeId → NativeLibrary Host)

/-- Completes the job of the engine that is done first. -/
def settleFirst (x : Exchange Host) : Option (Except Violation (Exchange Host)) :=
  (Host.firstJob x.native.jobs).map fun job =>
    let (callback, host) := x.native.finish job
    { x with native := host }.complete libraries callback

/-- Completes the jobs of the engine in the order in which they are done, at most `count`. -/
def settle : Nat → Exchange Host → Except Violation (Exchange Host)
  | 0, x => .ok x
  | count + 1, x =>
    match settleFirst libraries x with
    | none => .ok x
    | some (.ok x) => settle count x
    | some (.error violation) => .error violation

def settleAll (x : Exchange Host) : Except Violation (Exchange Host) :=
  settle libraries x.native.jobs.length x

/-- What waiting comes to, unless it never ends. -/
abbrev Awaited (α : Type) := ExceptT Violation Option α

/-- A limit that begins now, and the moment at which it passes. -/
def limitOf (milliseconds : Option Nat) (x : Exchange Host) : Option (Duration × Nat) :=
  milliseconds.map fun ms => (.ofMilliseconds ms, x.native.clock + ms)

/-- Gives up on a call whose limit has passed. -/
def expire (limit : Duration) (deadline : Nat) (call : Call) (x : Exchange Host) :
    Outcome × Exchange Host :=
  (.error (.timedOut limit),
    { x with native := x.native.waitUntil deadline }.drop call)

/-- Looks at a call, and while it has no outcome lets the engine do its next job or the limit
pass.  With neither to come the caller waits for ever. -/
def waitOnce (limit : Option (Duration × Nat)) (call : Call) (x : Exchange Host) :
    Awaited ((Call × Exchange Host) ⊕ (Outcome × Exchange Host)) :=
  match x.poll libraries call with
  | .error violation => throw violation
  | .ok (.ready outcome, _, x) => pure (.inr (outcome, x))
  | .ok (_, call, x) =>
    match x.native.nextJob (limit.map Prod.snd), limit with
    | some job, _ =>
      let (callback, host) := x.native.finish job
      match { x with native := host }.complete libraries callback with
      | .error violation => throw violation
      | .ok x => pure (.inl (call, x))
    | none, some (span, deadline) => pure (.inr (x.expire span deadline call))
    | none, none => none

instance : Nonempty (Outcome × Exchange Host) :=
  ⟨.ok "", initial (Host.start .builtIn) fun _ => .owned Host.engineAddress⟩

/-- Waits for a call. -/
def await (limit : Option (Duration × Nat)) (call : Call) (x : Exchange Host) :
    Awaited (Outcome × Exchange Host) :=
  repeatM (fun (call, x) => waitOnce libraries limit call x) (call, x)

/-- `Bridge::execute_raw`, and `Bridge::execute_raw_with_timeout` if there is a limit. -/
def execute (bridge : BridgeId) (request : String) (milliseconds : Option Nat)
    (x : Exchange Host) : Awaited (Outcome × Exchange Host) :=
  let limit := x.limitOf milliseconds
  let (call, x) := x.newCall bridge request
  await libraries limit call x

def startAll (bridge : BridgeId) :
    List String → Exchange Host → Except Violation (List (Call ⊕ Outcome) × Exchange Host)
  | [], x => .ok ([], x)
  | request :: requests, x =>
    let (call, x) := x.newCall bridge request
    match x.poll libraries call with
    | .error violation => .error violation
    | .ok (progress, call, x) =>
      let state := match progress with
        | .ready outcome => .inr outcome
        | _ => .inl call
      match startAll bridge requests x with
      | .error violation => .error violation
      | .ok (states, x) => .ok (state :: states, x)

def awaitAll : List (Call ⊕ Outcome) → Exchange Host → Awaited (List Outcome × Exchange Host)
  | [], x => pure ([], x)
  | state :: states, x => do
    let (outcome, x) ←
      match state with
      | .inr outcome => pure (outcome, x)
      | .inl call => await libraries none call x
    let (outcomes, x) ← awaitAll states x
    return (outcome :: outcomes, x)

/-- Executes requests at the same time and answers their outcomes in order. -/
def executeAll (bridge : BridgeId) (requests : List String) (x : Exchange Host) :
    Awaited (List Outcome × Exchange Host) := do
  let (states, x) ← liftExcept (startAll libraries bridge requests x)
  awaitAll libraries states x

/-- The typed response in an outcome. -/
def typedResponse {α : Type} (type : ResponseType α) (outcome : Outcome) :
    Except BridgeError α := do
  (type.read (← outcome)).mapError fun error => .deserialize type.name error.message

/-- `Bridge::execute`: a request value, and the response as a value of a type. -/
def executeTyped {α : Type} (bridge : BridgeId) (request : Json) (type : ResponseType α)
    (milliseconds : Option Nat) (x : Exchange Host) :
    Awaited (Except BridgeError α × Exchange Host) := do
  let (outcome, x) ← execute libraries bridge request.text milliseconds x
  return (typedResponse type outcome, x)

def onNative {σ α : Type} (act : σ → α × σ) (x : Exchange σ) : α × Exchange σ :=
  let (result, native) := act x.native
  (result, { x with native := native })

end EngineBridge.Exchange
