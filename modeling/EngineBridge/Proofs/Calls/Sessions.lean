import EngineBridge.Bridge.Codec
import EngineBridge.Proofs.Calls.Accounts
import EngineBridge.Proofs.Calls.Stages
/-!
# Sessions balance

`counters_balance`: whatever callers have asked a reference engine for, with whatever values and
texts, and whatever they have dropped or given up on, once no call is in flight the engine's
counters say what has crossed to it.  Every failure was recorded and taken once, every buffer is
held by a caller or was given back, every request was called back for, and no detail is left.

What callers ask for with typed values is the same as with texts, before and after the engine:
`perform_encode` and its like say that an operation that nobody comes between is the function of
the library.
-/

namespace EngineBridge

/-! ## Operations that nobody comes between -/

namespace NativeLibrary

variable {σ α : Type} (library : NativeLibrary σ) (thread : ThreadId)

/-- An operation of the codec from its beginning to its end, and what its caller is told. -/
def perform (operation : Operation) (s : σ) : Option (Told × σ) :=
  match operation.errand with
  | .error failure => some (.failure failure, s)
  | .ok (.request ..) => none
  | .ok (.codec call) =>
    match library.advanceCodecMany thread call 3 (library.beginCodec thread call s) with
    | (.freeing [] result, s) => some (operation.told result, s)
    | _ => none

theorem perform_encodeRaw (tag text : String) (s : σ) :
    library.perform thread (.encodeRaw tag text) s
      = some (.of .frame (library.encodeRaw thread tag text s).1,
          (library.encodeRaw thread tag text s).2) := by
  simp only [perform, Operation.errand, advanceCodecMany_eq_encodeRaw]
  cases (library.encodeRaw thread tag text s).1 <;> rfl

theorem perform_tryEncode (type : DomainType α) (value : α) (s : σ) :
    library.perform thread (.tryEncode type value) s
      = some (.of .frame (library.tryEncode thread type value s).1,
          (library.tryEncode thread type value s).2) := by
  cases written : type.write value with
  | error reason => simp only [perform, Operation.errand, tryEncode, written, Told.of]
  | ok text =>
    simp only [perform, Operation.errand, tryEncode, written, advanceCodecMany_eq_encodeRaw]
    cases (library.encodeRaw thread type.tag text s).1 <;> rfl

theorem perform_encode (type : DomainType α) (value : α) (s : σ) :
    library.perform thread (.encode type value) s
      = some (.of .frame ((library.encodeValue thread type value s).1.mapError .fault),
          (library.encodeValue thread type value s).2) := by
  cases written : type.write value with
  | error reason =>
    simp only [perform, Operation.errand, Operation.encodeFault, encodeValue, tryEncode, written,
      mapError_error, Told.of]
  | ok text =>
    simp only [perform, Operation.errand, encodeValue, tryEncode, written,
      advanceCodecMany_eq_encodeRaw]
    rcases library.encodeRaw thread type.tag text s with ⟨(error | violation) | buffer, s'⟩ <;> rfl

theorem perform_decodeRaw (tag : String) (bytes : List UInt8) (s : σ) :
    library.perform thread (.decodeRaw tag bytes) s
      = some (.of .value (library.decodeRaw thread tag bytes s).1,
          (library.decodeRaw thread tag bytes s).2) := by
  simp only [perform, Operation.errand, advanceCodecMany_eq_decodeRaw]
  cases (library.decodeRaw thread tag bytes s).1 <;> rfl

theorem perform_decode (type : DomainType α) (bytes : List UInt8) (s : σ) :
    library.perform thread (.decode type bytes) s
      = some (.of .value (library.decodeValue thread type bytes s).1,
          (library.decodeValue thread type bytes s).2) := by
  simp only [perform, Operation.errand, advanceCodecMany_eq_decodeRaw, decodeValue]
  rcases library.decodeRaw thread type.tag bytes s with ⟨failure | text, s'⟩
  · rfl
  · simp only [Except.map, Operation.told]
    cases type.read text <;> rfl

end NativeLibrary

/-- A buffer that is given back changes nothing that anybody is told. -/
theorem Serving.release {engine : Engine} {engines : BridgeId → EngineHandle} {s : Service}
    (h : Serving engine engines s) (buffer : Buffer) :
    Serving engine engines (s.release buffer) := by
  have stepped : s.world.step Service.libraries (.work (Host.library.release buffer s.host))
      = .ok (.done, _) := rfl
  obtain ⟨based, follows⟩ := h.step_based_follows rfl stepped
  exact {
    based := based
    same := h.same
    jobs := fun job member => (h.jobs job member).follows follows
    ready := fun callback member =>
      (h.ready callback member).imp_right fun owed => owed.follows follows
    tasks := fun task member => (h.tasks task member).follows follows rfl
    sent := fun delivery member => (h.sent delivery member).follows follows
    threads := h.threads
    taken := h.taken }

namespace Session

/-! ## The invariant -/

/-- What holds of a session, whoever has done what. -/
structure Keeps (engine : Engine) (engines : BridgeId → EngineHandle) (start : EngineSide)
    (s : Session) : Prop where
  serving : Serving engine engines s.service
  accounted : s.service.Accounted start s.log s.held

namespace Keeps

variable {engine : Engine} {engines : BridgeId → EngineHandle} {start : EngineSide}
  {s s' : Session}

theorem initial {host : Host} (idle : host.jobs = []) (tidy : ∀ t, host.side.lastError t = none)
    (engines : BridgeId → EngineHandle) :
    Keeps host.engine engines host.side (.initial host engines) :=
  ⟨.initial host idle engines, .initial idle tidy engines⟩

theorem turn (h : Keeps engine engines start s) {turn : Turn} {answer : Answer}
    (done : s.turn turn = .ok (answer, s')) : Keeps engine engines start s' := by
  unfold Session.turn at done
  split at done
  · simp at done
  · rename_i stepped
    cases done
    exact ⟨h.serving.step stepped, h.accounted.step h.serving stepped⟩

/-- A thread asks for an operation: if anything happens, it is a turn of the service. -/
theorem ask (h : Keeps engine engines start s) {thread : ThreadId} {bridge : BridgeId}
    {operation : Operation} {reply : Reply}
    (done : s.ask thread bridge operation = .ok (reply, s')) : Keeps engine engines start s' := by
  unfold Session.ask at done
  split at done
  · split at done
    · cases done
      exact h
    · simp at done
  · split at done
    · simp at done
    · rename_i turned
      cases done
      obtain ⟨serving, accounted⟩ := h.turn turned
      exact ⟨serving, accounted⟩
  · split at done
    · simp at done
    · rename_i turned
      cases done
      obtain ⟨serving, accounted⟩ := h.turn turned
      exact ⟨serving, accounted⟩

theorem giveBack (h : Keeps engine engines start s) {place : Nat} {reply : Reply}
    (done : s.giveBack place = .ok (reply, s')) : Keeps engine engines start s' := by
  unfold Session.giveBack at done
  split at done
  · simp at done
  · rename_i buffer at_
    cases done
    exact ⟨h.serving.release buffer, h.accounted.release at_⟩

/-- **Every step keeps the invariant.** -/
theorem step (h : Keeps engine engines start s) {move : Move} {reply : Reply}
    (done : s.step move = .ok (reply, s')) : Keeps engine engines start s' := by
  cases move with
  | ask thread bridge operation => exact h.ask done
  | giveBack place => exact h.giveBack done
  | turn turn =>
    simp only [Session.step] at done
    split at done
    · simp at done
    · split at done
      · simp at done
      · rename_i turned
        cases done
        exact h.turn turned

theorem session_isRun : IsRun Session.step Session.run where
  nil _ := rfl
  cons move moves s := by
    rw [Session.run]
    rcases Session.step move s with halt | ⟨reply, next⟩
    · rfl
    · simp only [bind, Except.bind]
      cases Session.run moves next <;> rfl

/-- **Every run keeps the invariant.** -/
theorem run {moves : List Move} {replies : List Reply} (h : Keeps engine engines start s)
    (ran : s.run moves = .ok (replies, s')) : Keeps engine engines start s' :=
  session_isRun.keeps (fun h (_ : True) stepped => h.step stepped) h (fun _ _ => trivial) ran

end Keeps

/-! ## Sessions at rest -/

/-- No call is in flight, and every operation of the codec has ended. -/
structure IsAtRest (s : Session) : Prop where
  landed : ∀ bridge, s.inFlight bridge = 0
  returned : ∀ task ∈ s.service.world.tasks, ∀ call stage, task.work ≠ .codec call stage

/-- What the engine's counters say since a start, and what is left on the native side. -/
structure Balanced (start : EngineSide) (s : Session) : Prop where
  recorded : (s.counters.since start.counters).recorded = Crossing.failures s.log
  taken : (s.counters.since start.counters).taken = Crossing.failures s.log
  allocated : (s.counters.since start.counters).allocated
    = Crossing.successes s.log + Crossing.failures s.log
  held_le : s.held.length ≤ (s.counters.since start.counters).allocated
  released : (s.counters.since start.counters).released
    = (s.counters.since start.counters).allocated - s.held.length
  callbacks : (s.counters.since start.counters).callbacks = Crossing.requests s.log
  empty : ∀ thread, s.service.host.side.lastError thread = none
  /-- The buffers that are out are those that callers hold. -/
  live : s.service.host.side.live.Perm (s.held.map Buffer.address ++ start.live)

theorem Keeps.balanced {engine : Engine} {engines : BridgeId → EngineHandle} {start : EngineSide}
    {s : Session} (h : Keeps engine engines start s) (rests : s.IsAtRest) : s.Balanced start := by
  obtain ⟨jobs, owing, out⟩ := h.accounted.at_rest h.serving rests.landed rests.returned
  have handed := h.accounted.handed
  have accounts := h.accounted.accounts
  rw [jobs, List.length_nil, Nat.zero_add] at handed
  rw [owing, out, List.nil_append] at accounts
  have recorded := accounts.recorded
  have taken := accounts.taken
  have allocated := accounts.allocated
  have released := accounts.released
  have grows := accounts.grows
  have callbacks := accounts.callbacks
  simp only [List.length_nil, Nat.add_zero] at taken allocated
  have tidy (thread : ThreadId) : s.service.host.side.lastError thread = none :=
    EngineSide.Balances.place_empty accounts List.not_mem_nil
  constructor
  case empty => exact tidy
  case live => exact accounts.live
  all_goals
    simp only [counters, Counters.since]
    omega

/-- When the engine and all threads are done, nothing is in flight. -/
theorem Keeps.rests {engine : Engine} {engines : BridgeId → EngineHandle} {start : EngineSide}
    {s : Session} (h : Keeps engine engines start s) (settled : s.service.IsSettled) :
    s.IsAtRest where
  landed bridge := by
    have flies := h.accounted.flying bridge
    rw [Exchange.slotBridges, h.serving.settled_slots settled, settled.2.2] at flies
    exact flies
  returned task member := by
    rw [settled.2.2] at member
    exact absurd member List.not_mem_nil

/-- **Every session can come to rest**, without the callers doing anything. -/
theorem Keeps.comes_to_rest {engine : Engine} {engines : BridgeId → EngineHandle}
    {start : EngineSide} {s : Session} (h : Keeps engine engines start s) :
    ∃ moves replies s', s.run moves = .ok (replies, s') ∧ s'.IsAtRest := by
  -- every turn of the engine or a thread leaves less to do
  induction bound : s.service.left using Nat.strongRecOn generalizing s with
  | _ n ih =>
    by_cases settled : s.service.IsSettled
    · exact ⟨[], [], s, rfl, h.rests settled⟩
    · obtain ⟨turn, member, answer, next, stepped, -, less⟩ := h.serving.can_go_on settled
      have asks : turn.isAsking = false := by
        simp only [List.mem_cons, List.not_mem_nil, or_false] at member
        rcases member with rfl | rfl | rfl <;> rfl
      have moved : ∃ s', s.step (.turn turn) = .ok (s.reply turn answer, s') ∧
          s'.service = next := by
        simp only [Session.step, asks, Session.turn, stepped, Bool.false_eq_true, if_false]
        exact ⟨_, rfl, rfl⟩
      obtain ⟨s₁, done, rfl⟩ := moved
      obtain ⟨moves, replies, s', ran, rests⟩ :=
        ih s₁.service.left (bound ▸ less) (h.step done) rfl
      refine ⟨.turn turn :: moves, s.reply turn answer :: replies, s', ?_, rests⟩
      simp only [Session.run, done, ran]

/-- **The counters of an engine balance** once no call is in flight, whatever callers have asked for
and whatever they have dropped, if no detail was left from before. -/
theorem counters_balance (host : Host) (idle : host.jobs = [])
    (tidy : ∀ thread, host.side.lastError thread = none) (engines : BridgeId → EngineHandle)
    (moves : List Move) (replies : List Reply) (s : Session)
    (ran : run moves (initial host engines) = .ok (replies, s)) (rests : s.IsAtRest) :
    s.Balanced host.side :=
  ((Keeps.initial idle tidy engines).run ran).balanced rests

/-- A frame that is kept, bytes that are no frame, a value without text, and two requests that the
engine refuses: nobody waits for the one, and the limit of the other has passed. -/
def mixedMoves : List Move :=
  [.ask 7 0 (.encodeRaw "T" "0"), .turn (.act (.advance 0)), .turn (.act (.advance 0)),
    .ask 7 0 (.decodeRaw "T" []), .turn (.act (.advance 0)), .turn (.act (.advance 0)),
    .turn (.act (.advance 0)),
    .ask 7 0 (.tryEncode (.unwritable "U" "no text") ()),
    .ask 7 0 (.executeRaw "x" none), .turn (.act (.poll 0 false)), .turn (.act (.drop 0)),
    .ask 7 0 (.executeRaw "y" (some (.ofMilliseconds 5))), .turn (.act (.poll 1 true)),
    .turn (.finish 1000 0), .turn (.finish 1001 0), .turn (.report 0), .turn (.report 0)]
  ++ List.replicate 18 (.turn (.act (.advance 0)))

/-- An engine without operations, which has done nothing. -/
def freshHost : Host := Host.start ⟨NameMap.ofList [], none⟩

/-- Whether the engine and all threads are done, and how many calls have failed, frames were made,
requests were handed over and frames are held. -/
def summary (s : Session) : Bool × List Nat :=
  (s.service.host.jobs.isEmpty && s.service.ready.isEmpty && s.service.world.tasks.isEmpty,
    [Crossing.failures s.log, Crossing.successes s.log, Crossing.requests s.log, s.held.length])

theorem counters_balance_mixedMoves : ∃ replies s,
    run mixedMoves (initial freshHost fun _ => .owned 1) = .ok (replies, s) ∧ s.IsAtRest ∧
      s.summary = (true, [3, 1, 2, 1]) ∧ s.Balanced freshHost.side := by
  have summed : ((run mixedMoves (initial freshHost fun _ => .owned 1)).toOption.map
      fun ran => ran.2.summary) = some (true, [3, 1, 2, 1]) := by
    decide +kernel
  cases ran : run mixedMoves (initial freshHost fun _ => .owned 1) with
  | error halt =>
    rw [ran] at summed
    cases summed
  | ok state =>
    obtain ⟨replies, s⟩ := state
    rw [ran] at summed
    have sums : s.summary = (true, [3, 1, 2, 1]) := Option.some.inj summed
    have done := congrArg Prod.fst sums
    simp only [summary, Bool.and_eq_true, List.isEmpty_iff] at done
    have keeps : Keeps freshHost.engine (fun _ => .owned 1) freshHost.side s :=
      (Keeps.initial rfl (fun _ => rfl) _).run ran
    have rests := keeps.rests ⟨done.1.1, done.1.2, done.2⟩
    exact ⟨replies, s, rfl, rests, sums, counters_balance freshHost rfl (fun _ => rfl)
      (fun _ => .owned 1) mixedMoves replies s ran rests⟩

end Session

end EngineBridge
