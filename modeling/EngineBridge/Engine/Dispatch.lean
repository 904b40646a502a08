import EngineBridge.EngineError
import EngineBridge.Json.Record
/-!
# Engines and requests: `EngineBuilder` and `dispatch`

An engine is a map from names to handlers.  A request is a JSON object whose member `$type`
names the handler to run on it; the handler answers a value, fails, or panics.  A later
registration replaces an earlier one of the same name, built-in operations included.  The
configuration of an engine is a JSON record with one optional member, the number of worker threads.

A `Routine` is an operation that may act on a state while it runs; the next one finds the state as
it was left.  A `Handler` leaves it alone.  `serve` is what a request comes to among such
operations, and what it does to the state: how often an operation was run can be read off it.
-/

/-! ## Configuration -/

namespace EngineBridge

-- Powers are core's, also where Mathlib has brought its own.
attribute [local instance (20000)] instPowNat

/-- `EngineConfig`: how an engine is set up. -/
structure EngineConfig where
  workerThreads : Option Nat
deriving DecidableEq, Repr

namespace EngineConfig

def recordType : Json.RecordType (Option (Option Nat)) EngineConfig where
  name := "EngineConfig"
  fields :=
    [{ name := "workerThreads"
       read := fun input => do
         let (value, rest) ← Json.readOptional (Json.readWordValue "usize") input
         return (fun _ => some value, rest)
       isGiven := Option.isSome
       isRequired := false }]
  start := none
  finish draft := some ⟨draft.join⟩
  isClosed := true

/-- Reads a configuration. -/
def readText (text : String) : Except Json.ReadError EngineConfig := recordType.readText text

def emptyText : String := "\x7b\x7d"

def workersText (count : Nat) : String :=
  (Json.object [("workerThreads", .ofNat count)]).text

end EngineConfig

/-! ## Handlers -/

/-- What a handler does with a request. -/
inductive Reaction where
  | respond (value : Json)
  | fail (error : EngineError)
  /-- A panic, with its text if it carries one. -/
  | panic (text : Option String)

/-- An operation: what it does with a request, and how long it takes. -/
structure Handler where
  react : Json → Reaction
  milliseconds : Json → Nat

namespace Handler

def instant (react : Json → Reaction) : Handler := ⟨react, fun _ => 0⟩

def typeMember : String := "$type"

def ping : Handler := instant fun _ => .respond (.object [("pong", .bool true)])

def echo : Handler := instant fun request =>
  .respond
    (match request with
    | .object members => .object (NameMap.erase members typeMember)
    | other => other)

/-- How long a request asks to sleep. -/
def sleepTime? (request : Json) : Option Nat := (request.member? "ms").bind Json.asNat?

/-- Sleeps as long as the request asks. -/
def sleep : Handler where
  react request :=
    match sleepTime? request with
    | some ms => .respond (.object [("sleptMs", .ofNat ms)])
    | none => .fail (.invalidArgument "sleep needs an integer \"ms\"")
  milliseconds request := (sleepTime? request).getD 0

/-- Answers the member of a name, or null. -/
def pick (name : String) : Handler := instant fun request =>
  .respond ((request.member? name).getD .null)

def unknownPanic : String := "unknown panic"

end Handler

/-- What a reaction comes to in `dispatch`: a panic is told by `panic_message`. -/
def Reaction.result : Reaction → Except EngineError Json
  | respond value => .ok value
  | fail error => .error error
  | panic text => .error (.panicked (text.getD Handler.unknownPanic))

@[simp] theorem Reaction.result_respond (value : Json) : (respond value).result = .ok value := rfl

@[simp] theorem Reaction.result_fail (error : EngineError) : (fail error).result = .error error := rfl

@[simp] theorem Reaction.result_panic (text : Option String) :
    (panic text).result = .error (.panicked (text.getD Handler.unknownPanic)) := rfl

/-- What running the operation comes to. -/
def Handler.run (handler : Handler) (request : Json) : Except EngineError Json :=
  (handler.react request).result

/-- `EngineBuilder`: an engine's operations, and how many threads it was asked to have. -/
structure Engine where
  operations : NameMap Handler
  workerThreads : Option Nat

namespace Engine

def builtIn : Engine where
  operations := NameMap.ofList
    [("ping", Handler.ping), ("echo", Handler.echo), ("sleep", Handler.sleep)]
  workerThreads := none

/-- `EngineBuilder::operation`: an operation replaces any earlier one of the name. -/
def register (engine : Engine) (name : String) (handler : Handler) : Engine :=
  { engine with operations := engine.operations.insert name handler }

/-- `EngineBuilder::worker_threads`: at least one. -/
def withWorkers (engine : Engine) (count : Nat) : Engine :=
  { engine with workerThreads := some (max count 1) }

/-- `EngineBuilder::config`. -/
def configure (engine : Engine) (config : EngineConfig) : Engine :=
  match config.workerThreads with
  | some count => engine.withWorkers count
  | none => engine

/-- Whether the list of its worker threads has room in memory: eight bytes for each, in one piece
of less than `2 ^ 63` bytes. -/
def hasRoom (engine : Engine) : Bool :=
  engine.workerThreads.all fun count => 8 * count < 2 ^ (63 : Nat)

/-- `EngineBuilder::build`; without room for its workers the attempt ends in a panic of this text.
-/
def start (engine : Engine) : Except String Engine :=
  if engine.hasRoom then .ok engine else .error "capacity overflow"

def names (engine : Engine) : List String := engine.operations.names

/-- How many requests run at a time when nothing else was asked for. -/
def defaultSlots : Nat := 512

def slots (engine : Engine) : Nat :=
  match engine.workerThreads with
  | some count => max count 4
  | none => defaultSlots

/-- How an engine is shown. -/
def display (engine : Engine) : String :=
  "Engine \x7b operations: " ++ Text.quotedList engine.names ++ ", .. \x7d"

/-- The name of the operation that a request asks for. -/
def operationName? (request : Json) : Option String :=
  (request.member? Handler.typeMember).bind Json.asString?

/-- Finds what a request text asks for among operations of some kind: it and the request. -/
def selectFrom {α : Type} (operations : NameMap α) (text : String) : Except EngineError (α × Json) :=
  match Json.readText text with
  | .error error => .error (.invalidArgument ("request is not JSON: " ++ error.message))
  | .ok request =>
    match operationName? request with
    | none =>
      .error (.invalidArgument
        ("request has no \"" ++ Handler.typeMember ++ "\" field"))
    | some name =>
      match operations.find? name with
      | none => .error (.unknownOperation name)
      | some operation => .ok (operation, request)

/-- Finds the operation of a request text: the handler and the request. -/
def select (engine : Engine) (text : String) : Except EngineError (Handler × Json) :=
  selectFrom engine.operations text

/-- `dispatch`: runs the operation that a request text asks for and answers its canonical text. -/
def dispatch (engine : Engine) (text : String) : Except EngineError String := do
  let (handler, request) ← engine.select text
  return (← handler.run request).text

/-- How long a request text keeps its worker. -/
def milliseconds (engine : Engine) (text : String) : Nat :=
  match engine.select text with
  | .ok (handler, request) => handler.milliseconds request
  | .error _ => 0

end Engine

/-! ## Operations that act on a state -/

/-- What running an operation does: its reaction to the request, and the state that it leaves. -/
abbrev Routine (σ : Type) := Json → σ → Reaction × σ

namespace Routine

variable {σ : Type}

/-- An operation that leaves the state alone. -/
def ofHandler (handler : Handler) : Routine σ := fun request s => (handler.react request, s)

def builtIn : List (String × Routine σ) :=
  [("ping", ofHandler Handler.ping), ("echo", ofHandler Handler.echo),
    ("sleep", ofHandler Handler.sleep)]

/-- The operations by name after some registrations, the first of them first. -/
def register (registrations : List (String × Routine σ)) : NameMap (Routine σ) :=
  registrations.foldl (fun routines entry => routines.insert entry.1 entry.2)
    (NameMap.ofList builtIn)

/-- Runs the operation that a request text asks for: the response is the text of its value. -/
def serve (routines : NameMap (Routine σ)) (text : String) (s : σ) :
    Except EngineError String × σ :=
  match Engine.selectFrom routines text with
  | .error error => (.error error, s)
  | .ok (routine, request) =>
    let (reaction, s) := routine request s
    (reaction.result.map Json.text, s)

end Routine

/-- The engine after some registrations. -/
def Engine.withOperations (registrations : List (String × Handler)) : Engine :=
  registrations.foldl (fun engine entry => engine.register entry.1 entry.2) .builtIn

end EngineBridge
