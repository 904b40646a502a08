import EngineBridge.Calls.Exchange
/-!
# Callbacks and codec calls, one stage at a time: `on_complete`, `encode_raw`, `decode_raw`

While an engine executes a callback, and while a codec call is under way, other threads go on.
Each moment at which they may come between is a stage here: a callback is entered, finds the
bridge of its call and holds it, takes the detail and gives its buffer back, lets the bridge
go, retires the slot, counts the call off, sends the outcome, gives up the slot's ownership of
the bridge, and returns.  A codec call that the engine has answered takes the detail if there
is one, and gives buffers back one by one.

`Exchange.complete` is all stages of a callback in a row.
-/

namespace EngineBridge

/-- What a callback does next, between its entry into `on_complete` and its return. -/
inductive Stage where
  /-- It looks for the bridge of its call. -/
  | looking
  /-- It reads the response, or the detail of the failure. -/
  | reading (bridge : BridgeId)
  /-- It gives the buffer of the detail back. -/
  | freeing (bridge : BridgeId) (buffer : Option Buffer) (outcome : Outcome)
  /-- It lets the bridge go. -/
  | leaving (bridge : BridgeId) (outcome : Outcome)
  /-- It retires the slot. -/
  | retiring (outcome : Outcome)
  /-- It counts the call off, the slot in its hand. -/
  | lowering (bridge : BridgeId) (outcome : Outcome)
  /-- It sends the outcome, the slot in its hand. -/
  | sending (bridge : BridgeId) (outcome : Outcome)
  /-- It gives up the slot's ownership of the bridge. -/
  | closing (bridge : BridgeId)
  /-- It returns to the engine. -/
  | returning

/-- Reads what a callback reports: the outcome, and of a failure the buffer that held the
detail. -/
def NativeLibrary.readReport {σ : Type} (library : NativeLibrary σ) (callback : Callback)
    (s : σ) : Except Violation (Option Buffer × Outcome) × σ :=
  if callback.status = Status.ok then
    match callback.response with
    | some response => (.ok (none, readCText response), s)
    | none => (.error (.missingResult "execute"), s)
  else
    match library.takeDetail callback.thread s with
    | (.error violation, s) => (.error violation, s)
    | (.ok buffer, s) =>
      (.ok (buffer, .error (failureOf callback.status (buffer.map Buffer.lossyText))), s)

namespace Exchange

variable {σ : Type} (libraries : BridgeId → NativeLibrary σ)

def takeSlot (token : Token) (x : Exchange σ) : Except Violation (BridgeId × Exchange σ) :=
  match x.arena.removeSlot token with
  | (none, _) => .error (x.arena.diagnose token)
  | (some bridge, arena) => .ok (bridge, { x with arena := arena })

def lower (bridge : BridgeId) (x : Exchange σ) : Exchange σ :=
  { x with arena := x.arena.lower bridge }

/-- One stage of a callback; none is left when it returns. -/
def advance (callback : Callback) (stage : Stage) (x : Exchange σ) :
    Except Violation (Option Stage × Exchange σ) :=
  match stage with
  | .looking =>
    match x.lookUp callback.context with
    | .error violation => .error violation
    | .ok (bridge, x) => .ok (some (.reading bridge), x)
  | .reading bridge =>
    match (libraries bridge).readReport callback x.native with
    | (.error violation, _) => .error violation
    | (.ok (buffer, outcome), native) =>
      .ok (some (.freeing bridge buffer outcome), { x with native := native })
  | .freeing bridge buffer outcome =>
    .ok (some (.leaving bridge outcome),
      { x with native := (libraries bridge).releaseAny buffer x.native })
  | .leaving bridge outcome => .ok (some (.retiring outcome), x.release bridge)
  | .retiring outcome =>
    match x.takeSlot callback.context with
    | .error violation => .error violation
    | .ok (bridge, x) => .ok (some (.lowering bridge outcome), x)
  | .lowering bridge outcome => .ok (some (.sending bridge outcome), x.lower bridge)
  | .sending bridge outcome => .ok (some (.closing bridge), (x.send callback.context outcome).2)
  | .closing bridge => .ok (some .returning, x.release bridge)
  | .returning => .ok (none, x)

/-- Goes through at most `count` stages of a callback. -/
def advanceMany (callback : Callback) :
    Nat → Option Stage × Exchange σ → Except Violation (Option Stage × Exchange σ)
  | 0, state => .ok state
  | _ + 1, (none, x) => .ok (none, x)
  | count + 1, (some stage, x) =>
    match x.advance libraries callback stage with
    | .error violation => .error violation
    | .ok state => advanceMany callback count state

end Exchange

inductive CodecCall where
  | encode (tag text : String)
  | decode (tag : String) (bytes : List UInt8)
deriving DecidableEq

inductive CodecAnswer where
  /-- The frame, which its caller owns. -/
  | frame (buffer : Buffer)
  | text (text : String)

abbrev CodecResult := Except Failure CodecAnswer

/-- What a codec call does next. -/
inductive CodecStage where
  /-- The engine has answered; a failure's detail is taken. -/
  | answered (status : Status) (out : OutSlots)
  /-- Buffers are given back one by one; none is left when the call is finished. -/
  | freeing (buffers : List Buffer) (result : CodecResult)

namespace CodecCall

def operation : CodecCall → String
  | encode .. => "encode"
  | decode .. => "decode"

/-- What is left to do with the buffer of a successful call. -/
def success (call : CodecCall) (buffer : Buffer) : CodecStage :=
  match call with
  | encode .. => .freeing [] (.ok (.frame buffer))
  | decode .. =>
    .freeing [buffer] ((buffer.decode.map CodecAnswer.text).mapError Failure.error)

end CodecCall

namespace NativeLibrary

variable {σ : Type} (library : NativeLibrary σ) (thread : ThreadId)

/-- Begins `Bridge::encode_raw` or `Bridge::decode_raw`: the engine does its part, unless a text
cannot be handed to it. -/
def beginCodec (call : CodecCall) (s : σ) : CodecStage × σ :=
  match call with
  | .encode tag text =>
    match toCText tag with
    | .error error => (.freeing [] (.error (.error error)), s)
    | .ok tag =>
      match toCText text with
      | .error error => (.freeing [] (.error (.error error)), s)
      | .ok text =>
        let ((status, out), s) := library.encode thread tag text s
        (.answered status out, s)
  | .decode tag bytes =>
    match toCText tag with
    | .error error => (.freeing [] (.error (.error error)), s)
    | .ok tag =>
      let ((status, out), s) := library.decode thread tag bytes s
      (.answered status out, s)

/-- What follows from the engine's answer. -/
def settleCodec (call : CodecCall) (status : Status) (out : OutSlots) (s : σ) :
    CodecStage × σ :=
  match out.take with
  | .error violation => (.freeing [] (.error (.fault violation)), s)
  | .ok buffer =>
    if status = Status.ok then
      match buffer with
      | some buffer => (call.success buffer, s)
      | none => (.freeing [] (.error (.fault (.missingResult call.operation))), s)
    else
      match library.takeDetail thread s with
      | (.error violation, s) => (.freeing buffer.toList (.error (.fault violation)), s)
      | (.ok detail, s) =>
        (.freeing (detail.toList ++ buffer.toList)
          (.error (.error (failureOf status (detail.map Buffer.lossyText)))), s)

def advanceCodec (call : CodecCall) (stage : CodecStage) (s : σ) : CodecStage × σ :=
  match stage with
  | .answered status out => library.settleCodec thread call status out s
  | .freeing [] result => (.freeing [] result, s)
  | .freeing (buffer :: buffers) result =>
    (.freeing buffers result, library.release buffer s)

/-- Goes through `count` stages of a codec call. -/
def advanceCodecMany (call : CodecCall) : Nat → CodecStage × σ → CodecStage × σ
  | 0, state => state
  | count + 1, (stage, s) =>
    advanceCodecMany call count (library.advanceCodec thread call stage s)

end NativeLibrary

end EngineBridge
