import EngineBridge.Calls.Execution
import EngineBridge.Calls.Service
/-!
# Sessions: what callers ask, and what `Stats` counts

An `Operation` is what a caller asks of a bridge: to encode, to decode or to execute, each with
typed values or with texts.  Only a text goes to the engine.  A value without one is refused
before the engine hears of it, and what comes back is read as a value when the engine is done.

A `Session` is a service together with what its callers have asked for, the frames that they
hold, and a log of what has crossed to the engine.  The log is kept by looking at each turn from
outside, and not by what the engine's counters say.
-/

namespace EngineBridge

/-- A kind of typed request: its name in messages, and the text of a value, or why it has none. -/
structure RequestType (α : Type) where
  name : String
  write : α → Except String String

/-- What a caller asks of a bridge. -/
inductive Operation where
  /-- Encodes a value that must have an encoding. -/
  | encode {α : Type} (type : DomainType α) (value : α)
  | tryEncode {α : Type} (type : DomainType α) (value : α)
  | encodeRaw (tag text : String)
  | decode {α : Type} (type : DomainType α) (bytes : List UInt8)
  | decodeRaw (tag : String) (bytes : List UInt8)
  | execute {α β : Type} (request : RequestType α) (value : α) (response : ResponseType β)
    (limit : Option Duration)
  | executeRaw (request : String) (limit : Option Duration)

/-- What of an operation goes to an engine. -/
inductive Errand where
  | codec (call : CodecCall)
  | request (text : String) (limit : Option Duration)
deriving DecidableEq

/-- What the caller of an operation is told at its end. -/
inductive Told where
  /-- A frame, which the caller holds from now on. -/
  | frame (buffer : Buffer)
  | value {α : Type} (value : α)
  | failure (failure : Failure)

namespace Told

/-- What a result tells. -/
def of {α : Type} (tell : α → Told) : Except Failure α → Told
  | .ok result => tell result
  | .error reason => failure reason

end Told

namespace Operation

/-- The fault of `Bridge::encode`. -/
def encodeFault {α : Type} (type : DomainType α) (error : BridgeError) : Failure :=
  .fault (.encodeFailed type.tag error.message)

/-- What goes to the engine, unless a value has no text. -/
def errand : Operation → Except Failure Errand
  | encode type value =>
    match type.write value with
    | .ok text => .ok (.codec (.encode type.tag text))
    | .error reason => .error (encodeFault type (.serialize type.name reason))
  | tryEncode type value =>
    match type.write value with
    | .ok text => .ok (.codec (.encode type.tag text))
    | .error reason => .error (.error (.serialize type.name reason))
  | encodeRaw tag text => .ok (.codec (.encode tag text))
  | decode type bytes => .ok (.codec (.decode type.tag bytes))
  | decodeRaw tag bytes => .ok (.codec (.decode tag bytes))
  | execute request value _ limit =>
    match request.write value with
    | .ok text => .ok (.request text limit)
    | .error reason => .error (.error (.serialize request.name reason))
  | executeRaw request limit => .ok (.request request limit)

/-- What the result of a codec call tells the caller. -/
def told : Operation → CodecResult → Told
  | encode type _, .error (.error error) => .failure (encodeFault type error)
  | decode type _, .ok (.text text) =>
    match type.read text with
    | .ok value => .value value
    | .error error => .failure (.error (.deserialize type.name error.message))
  | _, .ok (.frame buffer) => .frame buffer
  | _, .ok (.text text) => .value text
  | _, .error failure => .failure failure

/-- What the outcome of a request tells the caller. -/
def shown : Operation → Outcome → Told
  | execute _ _ response _, outcome =>
    .of .value ((Exchange.typedResponse response outcome).mapError .error)
  | _, outcome => .of .value (outcome.mapError .error)

end Operation

/-- Something that crosses to an engine, or ends there. -/
inductive Crossing where
  /-- A codec call ends in a status. -/
  | codec (call : CodecCall) (status : Status)
  /-- A request is handed over. -/
  | request (text : CText)
  /-- A request ends in a status. -/
  | ending (token : Token) (status : Status)
deriving DecidableEq

namespace Crossing

def isFailure : Crossing → Bool
  | codec _ status => status ≠ Status.ok
  | ending _ status => status ≠ Status.ok
  | request _ => false

def isSuccess : Crossing → Bool
  | codec _ status => status = Status.ok
  | _ => false

def isRequest : Crossing → Bool
  | request _ => true
  | _ => false

def isEnding : Crossing → Bool
  | ending .. => true
  | _ => false

end Crossing

/-- What crosses when a codec call begins: nothing, if the engine was not asked. -/
def CodecCall.crossings (call : CodecCall) : CodecStage → List Crossing
  | .answered status _ => [.codec call status]
  | .freeing .. => []

/-- What crosses when a call is looked at: the request of one that is not started. -/
def Call.crossings : Call → List Crossing
  | unstarted _ request =>
    match toCText request with
    | .ok text => [.request text]
    | .error _ => []
  | _ => []

def CodecResult.frames : CodecResult → List Buffer
  | .ok (.frame buffer) => [buffer]
  | _ => []

/-- The frame that an answer hands to a caller. -/
def Answer.frames : Answer → List Buffer
  | codec result => CodecResult.frames result
  | _ => []

namespace Service

/-- What crosses to the engine in a turn. -/
def crossings (turn : Turn) (s : Service) : List Crossing :=
  match turn with
  | .act (.call thread _ call) => call.crossings (Host.library.beginCodec thread call s.host).1
  | .act (.poll place _) =>
    match s.world.futures[place]? with
    | some future => future.call.crossings
    | none => []
  | .finish thread place =>
    match s.host.jobs[place]? with
    | some job => [.ending job.context (s.host.finishOn thread job).1.status]
    | none => []
  | _ => []

def release (buffer : Buffer) (s : Service) : Service :=
  { s with
    world :=
      { s.world with
        exchange := { s.world.exchange with native := Host.library.release buffer s.host } } }

end Service

/-- A service and its callers. -/
structure Session where
  service : Service
  /-- What threads have asked the codec for, the last operation first. -/
  operations : List (ThreadId × Operation)
  /-- What the call at each place was made for. -/
  asked : List Operation
  /-- The frames that callers hold. -/
  held : List Buffer
  /-- What has crossed to the engine, the last crossing first. -/
  log : List Crossing

/-- One step of somebody. -/
inductive Move where
  /-- A thread asks for an operation of a bridge. -/
  | ask (thread : ThreadId) (bridge : BridgeId) (operation : Operation)
  /-- A caller looks at a call, drops one, or clones or drops a handle; or the engine or a thread
  goes on with what it is at. -/
  | turn (turn : Turn)
  /-- A caller gives a frame back. -/
  | giveBack (place : Nat)

/-- What a step answers. -/
inductive Reply where
  | done
  /-- The call waits. -/
  | pending
  /-- There is nothing left to see. -/
  | gone
  | told (told : Told)

/-- What an answer of the service means to the caller of an operation. -/
def Operation.reply (operation : Operation) : Answer → Reply
  | .codec result => .told (operation.told result)
  | .progress (.ready outcome) => .told (operation.shown outcome)
  | .progress .pending => .pending
  | .progress .gone => .gone
  | _ => .done

/-- Whether a turn asks for something new. -/
def Turn.isAsking : Turn → Bool
  | act (.call ..) => true
  | act (.start ..) => true
  | _ => false

namespace Session

def initial (host : Host) (engines : BridgeId → EngineHandle) : Session :=
  ⟨.initial host engines, [], [], [], []⟩

/-- A turn of the service: what crosses is noted, and a frame goes to its caller. -/
def turn (turn : Turn) (s : Session) : Except Halt (Answer × Session) :=
  match s.service.step turn with
  | .error halt => .error halt
  | .ok (answer, service) =>
    .ok (answer,
      { s with
        service := service
        held := answer.frames ++ s.held
        log := s.service.crossings turn ++ s.log })

/-- The operation that a turn is about. -/
def operation? (turn : Turn) (s : Session) : Option Operation :=
  match turn with
  | .act (.poll place _) => s.asked[place]?
  | .act (.advance place) =>
    s.service.world.tasks[place]?.bind fun task => s.operations.lookup task.thread
  | _ => none

def reply (turn : Turn) (answer : Answer) (s : Session) : Reply :=
  match s.operation? turn with
  | some operation => operation.reply answer
  | none => .done

/-- A thread asks for an operation of a bridge. -/
def ask (thread : ThreadId) (bridge : BridgeId) (operation : Operation) (s : Session) :
    Except Halt (Reply × Session) :=
  match operation.errand with
  | .error failure =>
    if 0 < s.service.world.handles bridge then .ok (.told (.failure failure), s)
    else .error .refused
  | .ok (.codec call) =>
    match s.turn (.act (.call thread bridge call)) with
    | .error halt => .error halt
    | .ok (_, s) => .ok (.done, { s with operations := (thread, operation) :: s.operations })
  | .ok (.request text limit) =>
    match s.turn (.act (.start bridge text limit)) with
    | .error halt => .error halt
    | .ok (_, s) => .ok (.done, { s with asked := s.asked ++ [operation] })

/-- A caller gives a frame back. -/
def giveBack (place : Nat) (s : Session) : Except Halt (Reply × Session) :=
  match s.held[place]? with
  | none => .error .refused
  | some buffer =>
    .ok (.done, { s with service := s.service.release buffer, held := s.held.eraseIdx place })

def step (move : Move) (s : Session) : Except Halt (Reply × Session) :=
  match move with
  | .ask thread bridge operation => s.ask thread bridge operation
  | .turn turn =>
    if turn.isAsking then .error .refused
    else
      match s.turn turn with
      | .error halt => .error halt
      | .ok (answer, s') => .ok (s.reply turn answer, s')
  | .giveBack place => s.giveBack place

/-- Steps in order, and what they answer; the first one that does not happen ends the run. -/
def run : List Move → Session → Except Halt (List Reply × Session)
  | [], s => .ok ([], s)
  | move :: moves, s =>
    match s.step move with
    | .error halt => .error halt
    | .ok (reply, s) =>
      match run moves s with
      | .error halt => .error halt
      | .ok (replies, s) => .ok (reply :: replies, s)

/-- How many calls of a bridge wait for the engine. -/
def inFlight (bridge : BridgeId) (s : Session) : Nat :=
  s.service.world.exchange.arena.inFlight bridge

/-- What the engine's `stats` say. -/
def counters (s : Session) : Counters := s.service.host.side.counters

end Session

end EngineBridge
