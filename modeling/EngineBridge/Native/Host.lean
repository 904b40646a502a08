import EngineBridge.Native.EngineSide
import EngineBridge.Native.Loading
/-!
# An engine at work: `Engine::submit` and its workers

A `Host` is the native side together with an engine and the requests it is working on.  Time
is a count of milliseconds: a request starts when one of the engine's workers is free, in
the order of arrival, keeps it as long as its operation takes, and is then completed on that
worker's thread.  `library` is the engine as the bridge sees it.
-/

namespace EngineBridge

/-- A request that a worker has taken up or will take up. -/
structure Job where
  context : Token
  request : String
  worker : ThreadId
  /-- When the worker is done with it. -/
  due : Nat
deriving DecidableEq, Repr

/-- An engine, its jobs, and the time. -/
structure Host where
  side : EngineSide
  engine : Engine
  clock : Nat
  /-- When each worker is free again. -/
  freeAt : List Nat
  /-- The jobs that are not completed, in order of arrival. -/
  jobs : List Job

namespace Host

def start (engine : Engine) : Host :=
  ⟨.initial, engine, 0, List.replicate engine.slots 0, []⟩

/-- The worker that is free first, and when. -/
def firstFree : List Nat → ThreadId × Nat
  | [] => (0, 0)
  | [time] => (0, time)
  | time :: rest =>
    let (worker, best) := firstFree rest
    if time ≤ best then (0, time) else (worker + 1, best)

/-- The thread of a worker; the callers' threads have smaller numbers. -/
def workerThread (worker : Nat) : ThreadId := 1000 + worker

/-- `Engine::submit`: puts a request to work. -/
def submit (context : Token) (text : String) (host : Host) : Host :=
  let (worker, time) := firstFree host.freeAt
  let due := max host.clock time + host.engine.milliseconds text
  { host with
    freeAt := host.freeAt.set worker due
    jobs := host.jobs ++ [⟨context, text, workerThread worker, due⟩] }

/-- The job that is done first; of several, the one that came first. -/
def firstJob : List Job → Option Job
  | [] => none
  | job :: rest =>
    match firstJob rest with
    | none => some job
    | some other => if job.due ≤ other.due then some job else some other

/-- The job that is done first, unless it is done after a deadline. -/
def nextJob (deadline : Option Nat) (host : Host) : Option Job :=
  (firstJob host.jobs).filter fun job => deadline.all (job.due ≤ ·)

/-- Completes a job on a thread: its operation is run, and its callback is due. -/
def finishOn (thread : ThreadId) (job : Job) (host : Host) : Callback × Host :=
  let (callback, side) :=
    host.side.complete thread job.context (host.engine.dispatch job.request)
  (callback, { host with side := side, jobs := host.jobs.erase job })

/-- Completes a job on its worker: time passes until it is done. -/
def finish (job : Job) (host : Host) : Callback × Host :=
  let (callback, host) := host.finishOn job.worker job
  (callback, { host with clock := max host.clock job.due })

def waitUntil (time : Nat) (host : Host) : Host := { host with clock := max host.clock time }

def onSide {α : Type} (act : EngineSide → α × EngineSide) (host : Host) : α × Host :=
  let (result, side) := act host.side
  (result, { host with side := side })

/-- The engine's library.  Texts come from the bridge, so they are not null. -/
def library : NativeLibrary Host where
  execute context request host :=
    match EngineSide.submission (some host.engine) (some request) with
    | .ok (_, text) => ([], host.submit context text)
    | .error error =>
      let (callback, host) := host.onSide (EngineSide.complete 0 context (.error error))
      ([callback], host)
  decode thread tag bytes :=
    onSide (EngineSide.deliver thread (EngineSide.decoding (some tag) (some bytes) bytes.length))
  encode thread tag text :=
    onSide (EngineSide.deliver thread (EngineSide.encoding (some tag) (some text)))
  takeLastError thread :=
    onSide fun side =>
      let (out, side) := side.takeLastError thread .both
      (out.getD .untouched, side)
  release buffer host := { host with side := host.side.release buffer }

def engineAddress : Nat := 1

/-- Makes an engine from a configuration and puts it to work in place of the old one. -/
def makeEngine (thread : ThreadId) (config : CText) (host : Host) : Option Nat × Host :=
  match host.side.newEngine thread (some config) with
  | (some engine, side) => (some engineAddress, { start engine with side := side })
  | (none, side) => (none, { host with side := side })

def file : LibraryFile Host where
  symbols := requiredSymbols ++ [newSymbol, freeSymbol]
  functions := library
  makeEngine := makeEngine

end Host

end EngineBridge
