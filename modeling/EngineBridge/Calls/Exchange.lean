import EngineBridge.Calls.Arena
/-!
# Calls, callers and engines: `PendingCall`, `BridgeShared`, `on_complete`

An `Exchange` is the arena together with the receiving ends of the calls, the owners of each
bridge, and the native side.  A call is started by its caller, answered by a callback of the
engine (or a direct `resume`), and collected by the caller, who may also drop it.

A bridge is owned by its handles, by calls that are not finished, by slots, and for a moment
by a callback; when the last owner goes, the engine is freed.

Two records of the past go along: the `requests` that an engine was given and has not called
back for, and the `deliveries`, one for each slot whose outcome was sent.
-/

namespace EngineBridge

/-- What a call comes to: a response text or a translated error. -/
abbrev Outcome := Except BridgeError String

/-- The receiving end of a call: a channel for one outcome. -/
inductive Mailbox where
  /-- The caller waits and nothing has arrived. -/
  | waiting
  /-- The outcome has arrived and was not collected. -/
  | holding (outcome : Outcome)
  /-- The outcome was collected, the call was dropped, or there never was one. -/
  | closed

inductive Resumed where
  | delivered
  | abandoned
deriving DecidableEq, Repr

/-- The owners of a bridge, and what became of its engine: the reference count of `BridgeShared`. -/
structure Ownership where
  owners : Nat
  engine : EngineHandle
  /-- The addresses that were handed to the library to be freed, the last one first. -/
  frees : List Nat
deriving DecidableEq, Repr

namespace Ownership

def single (engine : EngineHandle) : Ownership := ⟨1, engine, []⟩

def retain (o : Ownership) : Ownership := { o with owners := o.owners + 1 }

def release (o : Ownership) : Ownership :=
  { o with
    owners := o.owners - 1
    frees := if o.owners = 1 then o.engine.toFree.toList ++ o.frees else o.frees }

/-- How often the engine was freed. -/
def freed (o : Ownership) : Nat := o.frees.length

end Ownership

/-- A request that an engine was given. -/
structure Request where
  token : Token
  bridge : BridgeId
  text : CText
deriving DecidableEq

/-- An outcome that was sent to a call, and whether there was somebody to receive it. -/
structure Delivery where
  token : Token
  outcome : Outcome
  resumed : Resumed

/-- Everything that calls act on. -/
structure Exchange (σ : Type) where
  native : σ
  arena : Arena
  mailboxes : Token → Mailbox
  bridges : BridgeId → Ownership
  /-- Callbacks processed so far. -/
  completions : Nat
  /-- The requests that an engine was given and whose callback it has not made. -/
  requests : List Request
  /-- The outcomes that were sent so far, the last one first. -/
  deliveries : List Delivery

/-- A call from its caller's side: the future of `Bridge::execute_raw`. -/
inductive Call where
  /-- Not looked at yet: the engine knows nothing of it. -/
  | unstarted (bridge : BridgeId) (request : String)
  /-- Waiting for the answer to a token. -/
  | started (bridge : BridgeId) (token : Token)
  /-- Finished or dropped. -/
  | gone
deriving DecidableEq, Repr

/-- What looking at a call shows. -/
inductive Progress where
  | pending
  | ready (outcome : Outcome)
  | gone

namespace Exchange

variable {σ : Type}

/-- No call was ever started; every bridge has one handle. -/
def initial (native : σ) (engines : BridgeId → EngineHandle) : Exchange σ :=
  ⟨native, .initial, fun _ => .closed, fun bridge => .single (engines bridge), 0, [], []⟩

def retain (bridge : BridgeId) (x : Exchange σ) : Exchange σ :=
  { x with bridges := setAt x.bridges bridge (x.bridges bridge).retain }

def release (bridge : BridgeId) (x : Exchange σ) : Exchange σ :=
  { x with bridges := setAt x.bridges bridge (x.bridges bridge).release }

def close (token : Token) (x : Exchange σ) : Exchange σ :=
  { x with mailboxes := setAt x.mailboxes token .closed }

/-- Registers a call: its slot owns the bridge and its receiving end is open. -/
def register (bridge : BridgeId) (x : Exchange σ) : Token × Exchange σ :=
  let (token, arena) := x.arena.register bridge
  (token,
    { x with arena := arena, mailboxes := setAt x.mailboxes token .waiting }.retain bridge)

/-- Puts an outcome into the receiving end of a call. -/
def send (token : Token) (outcome : Outcome) (x : Exchange σ) : Resumed × Exchange σ :=
  match x.mailboxes token with
  | .waiting =>
    (.delivered,
      { x with
        mailboxes := setAt x.mailboxes token (.holding outcome)
        deliveries := ⟨token, outcome, .delivered⟩ :: x.deliveries })
  | _ =>
    (.abandoned, { x with deliveries := ⟨token, outcome, .abandoned⟩ :: x.deliveries })

/-- `PendingCalls::resume`: the slot of the call is retired, the outcome sent, and the slot's
ownership of the bridge given up. -/
def resume (token : Token) (outcome : Outcome) (x : Exchange σ) :
    Except Violation Resumed × Exchange σ :=
  match x.arena.retire token with
  | (.error violation, _) => (.error violation, x)
  | (.ok bridge, arena) =>
    let (resumed, x) := { x with arena := arena }.send token outcome
    (.ok resumed, x.release bridge)

/-- The engine begins to call `on_complete` for a token. -/
def enter (token : Token) (x : Exchange σ) : Exchange σ :=
  { x with
    completions := x.completions + 1
    requests := x.requests.filter fun request => request.token ≠ token }

/-- Finds the bridge of a call that is called back for, and holds it for the callback. -/
def lookUp (token : Token) (x : Exchange σ) : Except Violation (BridgeId × Exchange σ) :=
  match x.arena.find? token with
  | none => .error (x.arena.diagnose token)
  | some bridge => .ok (bridge, x.retain bridge)

/-- The outcome that a callback reports, its detail read on the callback's thread; or the
breach of rules that ends the process. -/
def classify (library : NativeLibrary σ) (callback : Callback) (s : σ) :
    Except Violation Outcome × σ :=
  match checkStatus callback.status (library.readDetail callback.thread) s with
  | (.error (.fault violation), s) => (.error violation, s)
  | (.error (.error error), s) => (.ok (.error error), s)
  | (.ok (), s) =>
    match callback.response with
    | some response => (.ok (readCText response), s)
    | none => (.error (.missingResult "execute"), s)

/-- `on_complete` from its begin to its end. A breach of rules cannot be reported to anybody and
ends the process. -/
def complete (libraries : BridgeId → NativeLibrary σ) (callback : Callback)
    (x : Exchange σ) : Except Violation (Exchange σ) :=
  match (x.enter callback.context).lookUp callback.context with
  | .error violation => .error violation
  | .ok (bridge, x) =>
    match classify (libraries bridge) callback x.native with
    | (.error violation, _) => .error violation
    | (.ok outcome, native) =>
      match ({ x with native := native }.release bridge).resume callback.context outcome with
      | (.error violation, _) => .error violation
      | (.ok _, x) => .ok x

def completeAll (libraries : BridgeId → NativeLibrary σ) :
    List Callback → Exchange σ → Except Violation (Exchange σ)
  | [], x => .ok x
  | callback :: callbacks, x =>
    match x.complete libraries callback with
    | .error violation => .error violation
    | .ok x => completeAll libraries callbacks x

def newCall (bridge : BridgeId) (request : String) (x : Exchange σ) : Call × Exchange σ :=
  (.unstarted bridge request, x.retain bridge)

/-- `Bridge::start` with a C text: a slot is registered first, and the engine may answer before its
call returns. -/
def handOver (libraries : BridgeId → NativeLibrary σ) (bridge : BridgeId) (request : CText)
    (x : Exchange σ) : Except Violation (Token × Exchange σ) :=
  let (token, x) := x.register bridge
  let (callbacks, native) := (libraries bridge).execute token request x.native
  match completeAll libraries callbacks
      { x with native := native, requests := ⟨token, bridge, request⟩ :: x.requests } with
  | .error violation => .error violation
  | .ok x => .ok (token, x)

/-- `PendingCall::poll`: looks whether a started call was answered, and collects the outcome.
`inHand` are the tokens whose slots are retired and whose outcomes are about to be sent; a call that
waits for anything else has lost its completion, which is a breach of rules. -/
def collect (bridge : BridgeId) (token : Token) (inHand : List Token) (x : Exchange σ) :
    Except Violation (Progress × Call × Exchange σ) :=
  match x.mailboxes token with
  | .holding outcome => .ok (.ready outcome, .gone, (x.close token).release bridge)
  | .waiting =>
    if (x.arena.find? token).isNone ∧ token ∉ inHand then .error (.completionLost token)
    else .ok (.pending, .started bridge token, x)
  | .closed => .ok (.pending, .started bridge token, x)

/-- Looks at a call while some outcomes are about to be sent. -/
def pollAmid (libraries : BridgeId → NativeLibrary σ) (inHand : List Token) (call : Call)
    (x : Exchange σ) : Except Violation (Progress × Call × Exchange σ) :=
  match call with
  | .gone => .ok (.gone, .gone, x)
  | .started bridge token => x.collect bridge token inHand
  | .unstarted bridge request =>
    match toCText request with
    | .error error => .ok (.ready (.error error), .gone, x.release bridge)
    | .ok text =>
      match x.handOver libraries bridge text with
      | .error violation => .error violation
      | .ok (token, x) => x.collect bridge token inHand

/-- Looks at a call: starts it if need be, and collects its outcome if that has arrived.  A
request that is no C text fails before anything is registered. -/
def poll (libraries : BridgeId → NativeLibrary σ) (call : Call) (x : Exchange σ) :
    Except Violation (Progress × Call × Exchange σ) :=
  x.pollAmid libraries [] call

/-- Drops a call; its slot stays until the engine answers. -/
def drop (call : Call) (x : Exchange σ) : Exchange σ :=
  match call with
  | .gone => x
  | .unstarted bridge _ => x.release bridge
  | .started bridge token => (x.close token).release bridge

/-- Looks at a call that may have a limit, and drops it when the limit is seen to have passed
without an answer. -/
def pollWithin (libraries : BridgeId → NativeLibrary σ) (inHand : List Token)
    (limit : Option Duration) (passed : Bool) (call : Call) (x : Exchange σ) :
    Except Violation (Progress × Call × Exchange σ) :=
  match x.pollAmid libraries inHand call with
  | .error violation => .error violation
  | .ok (progress, call, x) =>
    match progress, limit, passed with
    | .pending, some span, true =>
      .ok (.ready (.error (.timedOut span)), .gone, x.drop call)
    | _, _, _ => .ok (progress, call, x)

/-- How many calls of a bridge have a slot: what `Bridge::in_flight` is to say. -/
def pendingCount (bridge : BridgeId) (x : Exchange σ) : Nat :=
  (x.arena.slots.filter fun slot => slot.2 = bridge).length

end Exchange

end EngineBridge
