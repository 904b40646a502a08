import EngineBridge.Calls.World
/-!
# `PendingCalls::register` and `resume`, one step at a time

Registering a call and resuming it are rows of steps that other threads may come between.  A call
that is registered gets its token, is counted, and has its slot put in.  A call that is resumed has
its slot removed, is counted off, and is sent its outcome; then the slot's ownership of the bridge
is given up.

A `Traffic` is what a `World` is, but with its threads in the middle of one of the two.  Any thread
may resume any token at any time, so what an engine makes of a request, and why it answers, is left
out.
-/

namespace EngineBridge

/-- What a thread does next in the middle of `PendingCalls::register` or `PendingCalls::resume`. -/
inductive Point where
  /-- The call of a future has its token, and is to be counted. -/
  | issued (future : Nat) (bridge : BridgeId) (token : Token)
  /-- The call is counted, and its slot is to be put in. -/
  | raised (future : Nat) (bridge : BridgeId) (token : Token)
  /-- The slot is in the hand of the thread, and the call is to be counted off. -/
  | removed (token : Token) (bridge : BridgeId) (outcome : Outcome)
  /-- The call is counted off, and is to be sent its outcome. -/
  | lowered (token : Token) (bridge : BridgeId) (outcome : Outcome)
  /-- The outcome is sent, and the slot's ownership of the bridge is to be given up. -/
  | sent (bridge : BridgeId) (resumed : Resumed)
  /-- There was no slot, and what is wrong is to be found out. -/
  | missed (token : Token)

namespace Point

/-- The future whose call is registered. -/
def future? : Point → Option Nat
  | issued future .. | raised future .. => some future
  | _ => none

/-- The token whose outcome is about to be sent. -/
def inHand? : Point → Option Token
  | removed token .. | lowered token .. => some token
  | _ => none

/-- The bridge of a call that is counted and has no slot yet. -/
def entering? : Point → Option BridgeId
  | raised _ bridge .. => some bridge
  | _ => none

/-- The bridge of a call that has no slot any more and is still counted. -/
def leaving? : Point → Option BridgeId
  | removed _ bridge _ => some bridge
  | _ => none

end Point

/-- The bridge with which a call is registered when it is looked at, unless it was before or its
request cannot be sent. -/
def Call.toRegister? : Call → Option BridgeId
  | unstarted bridge request => if (toCText request).isOk then some bridge else none
  | _ => none

namespace Exchange

variable {σ : Type}

/-- Issues a token for a call; its receiving end is open, and its bridge has an owner more. -/
def issue (bridge : BridgeId) (x : Exchange σ) : Token × Exchange σ :=
  let (token, arena) := x.arena.issue
  (token,
    { x with arena := arena, mailboxes := setAt x.mailboxes token .waiting }.retain bridge)

def raise (bridge : BridgeId) (x : Exchange σ) : Exchange σ :=
  { x with arena := x.arena.raise bridge }

def insertSlot (token : Token) (bridge : BridgeId) (x : Exchange σ) : Exchange σ :=
  { x with arena := x.arena.insertSlot token bridge }

/-- One step from a point, and the next point unless it was the last. -/
def pass (point : Point) (x : Exchange σ) : Option Point × Exchange σ :=
  match point with
  | .issued future bridge token => (some (.raised future bridge token), x.raise bridge)
  | .raised _ bridge token => (none, x.insertSlot token bridge)
  | .removed token bridge outcome => (some (.lowered token bridge outcome), x.lower bridge)
  | .lowered token bridge outcome =>
    let (resumed, x) := x.send token outcome
    (some (.sent bridge resumed), x)
  | .sent bridge _ => (none, x.release bridge)
  | .missed _ => (none, x)

def passMany : Nat → Option Point × Exchange σ → Option Point × Exchange σ
  | 0, state => state
  | _ + 1, (none, x) => (none, x)
  | count + 1, (some point, x) => passMany count (x.pass point)

end Exchange

/-- A thread in the middle of registering or resuming. -/
structure Passage where
  thread : ThreadId
  point : Point

/-- The exchange and everybody who acts on it, some of them in the middle of something. -/
structure Traffic (σ : Type) where
  exchange : Exchange σ
  /-- How many handles each bridge has. -/
  handles : BridgeId → Nat
  futures : List Future
  midway : List Passage

namespace Traffic

inductive Act where
  /-- A handle is cloned. -/
  | clone (bridge : BridgeId)
  /-- A handle is dropped. -/
  | letGo (bridge : BridgeId)
  /-- A caller makes a call, perhaps with a limit; nothing is registered yet. -/
  | start (bridge : BridgeId) (request : String) (limit : Option Duration)
  /-- A thread looks at a future, or begins to register its call. -/
  | poll (thread : ThreadId) (place : Nat) (passed : Bool)
  /-- A caller drops a future. -/
  | drop (place : Nat)
  /-- A thread begins to resume a token. -/
  | resume (thread : ThreadId) (token : Token) (outcome : Outcome)
  /-- A thread in the middle of something goes on. -/
  | advance (place : Nat)

variable {σ : Type} (libraries : BridgeId → NativeLibrary σ)

def initial (native : σ) (engines : BridgeId → EngineHandle) : Traffic σ :=
  ⟨.initial native engines, fun _ => 1, [], []⟩

/-- The tokens whose outcomes are about to be sent. -/
def inHand (t : Traffic σ) : List Token := t.midway.filterMap fun passage => passage.point.inHand?

/-- Whether a thread is not in the middle of anything. -/
def isIdle (thread : ThreadId) (t : Traffic σ) : Bool :=
  t.midway.all fun passage => passage.thread ≠ thread

/-- Whether no thread is registering the call of a future. -/
def isFree (place : Nat) (t : Traffic σ) : Bool :=
  t.midway.all fun passage => passage.point.future? ≠ some place

/-- How many calls of a bridge are counted and have no slot yet. -/
def entering (bridge : BridgeId) (t : Traffic σ) : Nat :=
  (t.midway.filterMap fun passage => passage.point.entering?).count bridge

/-- How many calls of a bridge have no slot any more and are still counted. -/
def leaving (bridge : BridgeId) (t : Traffic σ) : Nat :=
  (t.midway.filterMap fun passage => passage.point.leaving?).count bridge

/-- A thread looks at a future, or begins to register its call. -/
def poll (thread : ThreadId) (place : Nat) (passed : Bool) (t : Traffic σ) :
    Except Halt (Answer × Traffic σ) :=
  match t.futures[place]? with
  | none => .error .refused
  | some future =>
    if t.isIdle thread ∧ t.isFree place then
      match future.call.toRegister? with
      | some bridge =>
        let (token, x) := t.exchange.issue bridge
        .ok (.done,
          { t with exchange := x, midway := ⟨thread, .issued place bridge token⟩ :: t.midway })
      | none =>
        match t.exchange.pollWithin libraries t.inHand future.limit passed future.call with
        | .error violation => .error (.violation violation)
        | .ok (progress, call, x) =>
          .ok (.progress progress,
            { t with exchange := x, futures := t.futures.set place { future with call := call } })
    else .error .refused

/-- A caller drops a future. -/
def drop (place : Nat) (t : Traffic σ) : Except Halt (Answer × Traffic σ) :=
  match t.futures[place]? with
  | none => .error .refused
  | some future =>
    if t.isFree place then
      .ok (.done,
        { t with
          exchange := t.exchange.drop future.call
          futures := t.futures.set place { future with call := .gone } })
    else .error .refused

/-- A thread begins to resume a token: it removes the slot, if there is one. -/
def resume (thread : ThreadId) (token : Token) (outcome : Outcome) (t : Traffic σ) :
    Except Halt (Answer × Traffic σ) :=
  if t.isIdle thread then
    match t.exchange.takeSlot token with
    | .error _ => .ok (.done, { t with midway := ⟨thread, .missed token⟩ :: t.midway })
    | .ok (bridge, x) =>
      .ok (.done,
        { t with
          exchange := x
          midway := ⟨thread, .removed token bridge outcome⟩ :: t.midway })
  else .error .refused

def answer (point : Point) (t : Traffic σ) : Answer :=
  match point with
  | .sent _ resumed => .resumed (.ok resumed)
  | .missed token => .resumed (.error (t.exchange.arena.diagnose token))
  | _ => .done

/-- The futures after a step from a point: a call whose slot was put in is started. -/
def settle (point : Point) (futures : List Future) : List Future :=
  match point with
  | .raised place bridge token =>
    futures.modify place fun future => { future with call := .started bridge token }
  | _ => futures

/-- A thread in the middle of something goes on. -/
def advance (place : Nat) (t : Traffic σ) : Except Halt (Answer × Traffic σ) :=
  match t.midway[place]? with
  | none => .error .refused
  | some ⟨thread, point⟩ =>
    let (next, x) := t.exchange.pass point
    .ok (t.answer point,
      { t with
        exchange := x
        futures := settle point t.futures
        midway :=
          match next with
          | some next => t.midway.set place ⟨thread, next⟩
          | none => t.midway.eraseIdx place })

def step (act : Act) (t : Traffic σ) : Except Halt (Answer × Traffic σ) :=
  match act with
  | .clone bridge =>
    if 0 < t.handles bridge then
      .ok (.done,
        { t with
          exchange := t.exchange.retain bridge
          handles := setAt t.handles bridge (t.handles bridge + 1) })
    else .error .refused
  | .letGo bridge =>
    if 0 < t.handles bridge then
      .ok (.done,
        { t with
          exchange := t.exchange.release bridge
          handles := setAt t.handles bridge (t.handles bridge - 1) })
    else .error .refused
  | .start bridge request limit =>
    if 0 < t.handles bridge then
      let (call, x) := t.exchange.newCall bridge request
      .ok (.done,
        { t with exchange := x, futures := t.futures ++ [⟨bridge, request, limit, call⟩] })
    else .error .refused
  | .poll thread place passed => t.poll libraries thread place passed
  | .drop place => t.drop place
  | .resume thread token outcome => t.resume thread token outcome
  | .advance place => t.advance place

/-- Steps in order, and what they answer; the first one that does not happen ends the run. -/
def run : List Act → Traffic σ → Except Halt (List Answer × Traffic σ)
  | [], t => .ok ([], t)
  | act :: acts, t =>
    match t.step libraries act with
    | .error halt => .error halt
    | .ok (answer, t) =>
      match run acts t with
      | .error halt => .error halt
      | .ok (answers, t) => .ok (answer :: answers, t)

end Traffic

end EngineBridge
