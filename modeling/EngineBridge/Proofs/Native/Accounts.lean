import EngineBridge.Calls.Session
import EngineBridge.Proofs.Native.Host
/-!
# The accounts of an engine's side

`Balances` ties the counters of the native side to what they count: a detail is in its thread's
place until it is taken, a buffer is out until it is given back, and a detail that is taken is a
buffer that is out.  The threads that owe the taking, the buffers and the numbers of calls are not
in the native side itself, so they are parameters; each step is a lemma that says how it moves
them.

From these follows what each function of the library does to the accounts of whoever calls it.
-/

namespace EngineBridge

/-! ## What callbacks and codec calls owe -/

/-- The thread in whose place a callback has left the detail of its failure. -/
def Callback.owing (callback : Callback) : List ThreadId :=
  if callback.status = Status.ok then [] else [callback.thread]

theorem Callback.eq_of_owing {callback : Callback} {thread : ThreadId}
    (owes : thread ∈ callback.owing) : thread = callback.thread := by
  unfold owing at owes
  split at owes
  · exact absurd owes List.not_mem_nil
  · exact List.mem_singleton.1 owes

namespace Stage

/-- The thread that has a detail to take, if a callback is before that. -/
def owing (callback : Callback) : Stage → List ThreadId
  | looking => callback.owing
  | reading _ => callback.owing
  | _ => []

theorem eq_of_owing {callback : Callback} {stage : Stage} {thread : ThreadId}
    (owes : thread ∈ stage.owing callback) : thread = callback.thread := by
  cases stage with
  | looking => exact callback.eq_of_owing owes
  | reading bridge => exact callback.eq_of_owing owes
  | _ => exact absurd owes List.not_mem_nil

/-- The buffers in the hand of a callback. -/
def out : Stage → List Buffer
  | freeing _ buffer _ => buffer.toList
  | _ => []

end Stage

namespace CodecStage

/-- The thread that has a detail to take, if a codec call is before that. -/
def owing (thread : ThreadId) : CodecStage → List ThreadId
  | answered status _ => if status = Status.ok then [] else [thread]
  | freeing .. => []

theorem eq_of_owing {stage : CodecStage} {thread other : ThreadId}
    (owes : other ∈ stage.owing thread) : other = thread := by
  cases stage with
  | freeing buffers result => exact absurd owes List.not_mem_nil
  | answered status slots =>
    simp only [owing] at owes
    split at owes
    · exact absurd owes List.not_mem_nil
    · exact List.mem_singleton.1 owes

/-- The buffers in the hand of a codec call; the frame in its result is one. -/
def out : CodecStage → List Buffer
  | answered _ (.written buffer) => [buffer]
  | answered _ (.null _) => []
  | freeing buffers result => buffers ++ CodecResult.frames result

end CodecStage

namespace Crossing

/-- How many engine calls have failed. -/
def failures (log : List Crossing) : Nat := log.countP isFailure

/-- How many codec calls have succeeded. -/
def successes (log : List Crossing) : Nat := log.countP isSuccess

/-- How many requests were handed over. -/
def requests (log : List Crossing) : Nat := log.countP isRequest

/-- How many requests have ended. -/
def endings (log : List Crossing) : Nat := log.countP isEnding

theorem countP_cons_toNat (p : Crossing → Bool) (crossing : Crossing) (log : List Crossing) :
    (crossing :: log).countP p = log.countP p + (p crossing).toNat := by
  rw [List.countP_cons]
  cases p crossing <;> rfl

theorem failures_cons (crossing : Crossing) (log : List Crossing) :
    failures (crossing :: log) = failures log + crossing.isFailure.toNat :=
  countP_cons_toNat isFailure crossing log

theorem successes_cons (crossing : Crossing) (log : List Crossing) :
    successes (crossing :: log) = successes log + crossing.isSuccess.toNat :=
  countP_cons_toNat isSuccess crossing log

theorem requests_cons (crossing : Crossing) (log : List Crossing) :
    requests (crossing :: log) = requests log + crossing.isRequest.toNat :=
  countP_cons_toNat isRequest crossing log

theorem endings_cons (crossing : Crossing) (log : List Crossing) :
    endings (crossing :: log) = endings log + crossing.isEnding.toNat :=
  countP_cons_toNat isEnding crossing log

/-- A codec call is neither a request nor the end of one. -/
theorem requests_codec (call : CodecCall) (stage : CodecStage) (log : List Crossing) :
    requests (call.crossings stage ++ log) = requests log ∧
      endings (call.crossings stage ++ log) = endings log := by
  cases stage <;> exact ⟨rfl, rfl⟩

end Crossing

namespace EngineSide

/-! ## The accounts -/

/-- The accounts of a side since a start: the threads that have a detail to take, the buffers that
are out, the engine calls that have failed, the codec calls that have succeeded and the requests
that have ended. -/
structure Balances (start side : EngineSide) (owing : List ThreadId) (out : List Buffer)
    (failures successes endings : Nat) : Prop where
  places : ∀ t, owing.count t = (side.lastError t).isSome.toNat
  recorded : side.counters.recorded = start.counters.recorded + failures
  taken : side.counters.taken + owing.length = start.counters.taken + failures
  /-- A detail that is taken is a buffer. -/
  allocated : side.counters.allocated + owing.length
    = start.counters.allocated + successes + failures
  released : side.counters.released + out.length + start.counters.allocated
    = start.counters.released + side.counters.allocated
  grows : start.counters.released ≤ side.counters.released
  callbacks : side.counters.callbacks = start.counters.callbacks + endings
  live : side.live.Perm (out.map Buffer.address ++ start.live)

namespace Balances

variable {start side : EngineSide} {owing owing' : List ThreadId} {out out' : List Buffer}
  {failures successes endings : Nat} {thread : ThreadId}

/-- Nothing has happened, and no detail is left from before. -/
theorem initial (tidy : ∀ t, side.lastError t = none) : Balances side side [] [] 0 0 0 where
  places t := by rw [tidy t]; rfl
  recorded := rfl
  taken := rfl
  allocated := rfl
  released := rfl
  grows := Nat.le_refl _
  callbacks := rfl
  live := .refl _

/-- The order of threads and of buffers does not matter. -/
theorem reorder (h : Balances start side owing out failures successes endings)
    (threads : owing.Perm owing') (buffers : out.Perm out') :
    Balances start side owing' out' failures successes endings where
  places t := by rw [← threads.count_eq t]; exact h.places t
  recorded := h.recorded
  taken := by rw [← threads.length_eq]; exact h.taken
  allocated := by rw [← threads.length_eq]; exact h.allocated
  released := by rw [← buffers.length_eq]; exact h.released
  grows := h.grows
  callbacks := h.callbacks
  live := h.live.trans ((buffers.map Buffer.address).append_right _)

/-- The place of a thread that owes nothing is empty. -/
theorem place_empty (h : Balances start side owing out failures successes endings)
    (free : thread ∉ owing) : side.lastError thread = none := by
  have place := h.places thread
  rw [List.count_eq_zero.2 free] at place
  cases last : side.lastError thread with
  | none => rfl
  | some text => simp [last] at place

/-! ### Steps -/

theorem record (h : Balances start side owing out failures successes endings)
    (free : thread ∉ owing) (error : EngineError) :
    Balances start (side.record thread error) (thread :: owing) out (failures + 1) successes
      endings where
  places t := by
    by_cases same : t = thread
    · subst same
      rw [List.count_cons_self, List.count_eq_zero.2 free, record_lastError]
      rfl
    · rw [List.count_cons_of_ne (Ne.symm same), record_lastError_of_ne error same]
      exact h.places t
  recorded := by
    have := h.recorded
    simp only [EngineSide.record]
    omega
  taken := by
    have := h.taken
    simp only [EngineSide.record, List.length_cons]
    omega
  allocated := by
    have := h.allocated
    simp only [EngineSide.record, List.length_cons]
    omega
  released := h.released
  grows := h.grows
  callbacks := h.callbacks
  live := h.live

theorem allocate (h : Balances start side owing out failures successes endings)
    (bytes : List UInt8) :
    Balances start (side.allocate bytes).2 owing ((side.allocate bytes).1 :: out) failures
      (successes + 1) endings where
  places := h.places
  recorded := h.recorded
  taken := h.taken
  allocated := by
    have := h.allocated
    simp only [EngineSide.allocate]
    omega
  released := by
    have := h.released
    simp only [EngineSide.allocate, List.length_cons]
    omega
  grows := h.grows
  callbacks := h.callbacks
  live := h.live.cons _

/-- A detail is taken, as a buffer that is out. -/
theorem take (h : Balances start side (thread :: owing) out failures successes endings) :
    ∃ buffer, (side.takeLastError thread .both).1 = some (.written buffer) ∧
      Balances start (side.takeLastError thread .both).2 owing (buffer :: out) failures successes
        endings := by
  have place := h.places thread
  rw [List.count_cons_self] at place
  obtain ⟨text, last⟩ : ∃ text, side.lastError thread = some text := by
    cases last : side.lastError thread with
    | none => simp [last] at place
    | some text => exact ⟨text, rfl⟩
  simp only [takeLastError, OutParameters.both, OutParameters.isIncomplete, Bool.or_self,
    Bool.false_eq_true, if_false, EngineSide.take, last, EngineSide.allocate]
  refine ⟨_, rfl, ?_, h.recorded, ?_, ?_, ?_, h.grows, h.callbacks, h.live.cons _⟩
  · intro t
    have before := h.places t
    by_cases same : t = thread
    · subst same
      simp only [last, List.count_cons_self, Option.isSome_some, Bool.toNat_true] at before
      simp only [if_true, Option.isSome_none, Bool.toNat_false]
      omega
    · rw [List.count_cons_of_ne (Ne.symm same)] at before
      simpa only [if_neg same] using before
  · have := h.taken
    simp only [List.length_cons] at this ⊢
    omega
  · have := h.allocated
    simp only [List.length_cons] at this ⊢
    omega
  · have := h.released
    simp only [List.length_cons] at this ⊢
    omega

theorem release {buffer : Buffer}
    (h : Balances start side owing (buffer :: out) failures successes endings) :
    Balances start (side.release buffer) owing out failures successes endings where
  places := h.places
  recorded := h.recorded
  taken := h.taken
  allocated := h.allocated
  released := by
    have := h.released
    simp only [EngineSide.release, List.length_cons] at this ⊢
    omega
  grows := Nat.le_succ_of_le h.grows
  callbacks := h.callbacks
  live := by
    have erased := h.live.erase buffer.address
    rwa [List.map_cons, List.cons_append, List.erase_cons_head] at erased

theorem fire (h : Balances start side owing out failures successes endings) :
    Balances start
      { side with counters := { side.counters with callbacks := side.counters.callbacks + 1 } }
      owing out failures successes (endings + 1) where
  places := h.places
  recorded := h.recorded
  taken := h.taken
  allocated := h.allocated
  released := h.released
  grows := h.grows
  callbacks := congrArg Nat.succ h.callbacks
  live := h.live

end Balances

/-- The accounts of a side since a start, with the calls that a log tells of. -/
def Accounts (start side : EngineSide) (owing : List ThreadId) (out : List Buffer)
    (log : List Crossing) : Prop :=
  Balances start side owing out (Crossing.failures log) (Crossing.successes log)
    (Crossing.endings log)

variable {start side : EngineSide} {owing : List ThreadId} {out : List Buffer}
  {log : List Crossing}

/-- A codec call ends: its bytes are out, or its failure is recorded. -/
theorem Accounts.deliver (h : Accounts start side owing out log) {thread : ThreadId}
    (free : thread ∉ owing) (call : CodecCall) (result : Except EngineError (List UInt8)) :
    Accounts start (side.deliver thread result).2
      ((CodecStage.answered (side.deliver thread result).1.1 (side.deliver thread result).1.2).owing
        thread ++ owing)
      ((CodecStage.answered (side.deliver thread result).1.1 (side.deliver thread result).1.2).out
        ++ out)
      (.codec call (side.deliver thread result).1.1 :: log) := by
  rw [Accounts, Crossing.failures_cons, Crossing.successes_cons, Crossing.endings_cons]
  cases result with
  | ok bytes => exact Balances.allocate h bytes
  | error error =>
    have recorded := Balances.record h free error
    simpa [EngineSide.deliver, CodecStage.owing, CodecStage.out, Crossing.isFailure,
      Crossing.isSuccess, Crossing.isEnding, OutSlots.untouched, error.status_ne_ok] using recorded

theorem Accounts.complete (h : Accounts start side owing out log) {thread : ThreadId}
    (free : thread ∉ owing) (context : Token) (result : Except EngineError String) :
    Accounts start (side.complete thread context result).2
      ((side.complete thread context result).1.owing ++ owing) out
      (.ending context (side.complete thread context result).1.status :: log) := by
  have fired := Balances.fire h
  rw [Accounts, Crossing.failures_cons, Crossing.successes_cons, Crossing.endings_cons]
  unfold EngineSide.complete
  cases responseOf result with
  | ok response => exact fired
  | error error =>
    have recorded := fired.record free error
    simpa [Callback.owing, Crossing.isFailure, Crossing.isSuccess, Crossing.isEnding,
      error.status_ne_ok] using recorded

end EngineSide

namespace Host

open EngineSide (Accounts Balances)

variable {start : EngineSide} {host host' : Host} {owing : List ThreadId} {out : List Buffer}
  {log : List Crossing} {thread : ThreadId}

/-! ## What the library's functions do to the accounts -/

theorem takeDetail_accounts (h : Accounts start host.side (thread :: owing) out log) :
    ∃ buffer host', library.takeDetail thread host = (.ok (some buffer), host') ∧
      Accounts start host'.side owing (buffer :: out) log := by
  obtain ⟨buffer, is, taken⟩ := Balances.take h
  refine ⟨buffer, { host with side := (host.side.takeLastError thread .both).2 }, ?_, taken⟩
  simp only [NativeLibrary.takeDetail, library, onSide, is, Option.getD_some, OutSlots.take]

theorem releaseAny_accounts {buffer : Option Buffer}
    (h : Accounts start host.side owing (buffer.toList ++ out) log) :
    Accounts start (library.releaseAny buffer host).side owing out log := by
  cases buffer with
  | none => exact h
  | some buffer => exact Balances.release h

/-- A job that is finished on a thread that owes nothing. -/
theorem finishOn_accounts (h : Accounts start host.side owing out log) (free : thread ∉ owing)
    (job : Job) :
    Accounts start (host.finishOn thread job).2.side
      ((host.finishOn thread job).1.owing ++ owing) out
      (.ending job.context (host.finishOn thread job).1.status :: log) :=
  h.complete free job.context (host.engine.dispatch job.request)

/-- A callback reads what it reports: the detail of a failure is a buffer in its hand. -/
theorem readReport_accounts {callback : Callback} {buffer : Option Buffer} {outcome : Outcome}
    (h : Accounts start host.side (callback.owing ++ owing) out log)
    (read : library.readReport callback host = (.ok (buffer, outcome), host')) :
    Accounts start host'.side owing (buffer.toList ++ out) log := by
  unfold NativeLibrary.readReport at read
  by_cases success : callback.status = Status.ok
  · rw [if_pos success] at read
    rw [Callback.owing, if_pos success] at h
    split at read
    · cases read
      exact h
    · simp at read
  · rw [if_neg success] at read
    rw [Callback.owing, if_neg success] at h
    obtain ⟨detail, host₁, taken, accounts⟩ := takeDetail_accounts h
    rw [taken] at read
    cases read
    exact accounts

/-! ## Codec calls -/

/-- A codec call begins on a thread that owes nothing. -/
theorem beginCodec_accounts (h : Accounts start host.side owing out log) (free : thread ∉ owing)
    (call : CodecCall) :
    Accounts start (library.beginCodec thread call host).2.side
      ((library.beginCodec thread call host).1.owing thread ++ owing)
      ((library.beginCodec thread call host).1.out ++ out)
      (call.crossings (library.beginCodec thread call host).1 ++ log) := by
  cases call with
  | encode tag text =>
    cases tagSent : toCText tag with
    | error refusal =>
      simp only [NativeLibrary.beginCodec, tagSent]
      exact h
    | ok sentTag =>
      cases textSent : toCText text with
      | error refusal =>
        simp only [NativeLibrary.beginCodec, tagSent, textSent]
        exact h
      | ok sentText =>
        simp only [NativeLibrary.beginCodec, tagSent, textSent]
        exact h.deliver free _ _
  | decode tag bytes =>
    cases tagSent : toCText tag with
    | error refusal =>
      simp only [NativeLibrary.beginCodec, tagSent]
      exact h
    | ok sentTag =>
      simp only [NativeLibrary.beginCodec, tagSent]
      exact h.deliver free _ _

end Host

/-- A codec call that answers what it asks for does not break the rules. -/
theorem CodecCall.Answers.ne_fault {call : CodecCall} {result : CodecResult}
    (answers : call.Answers result) (violation : Violation) :
    result ≠ .error (.fault violation) := by
  rintro rfl
  cases call with
  | encode tag text =>
    simp only [CodecCall.Answers] at answers
    split at answers
    · simp at answers
    · simp at answers
    · split at answers <;> simp at answers
  | decode tag bytes =>
    simp only [CodecCall.Answers] at answers
    split at answers
    · simp at answers
    · split at answers <;> simp at answers

/-- What is left to do with the buffer of a successful call gives it back or hands it on. -/
theorem CodecCall.success_out (call : CodecCall) (thread : ThreadId) (buffer : Buffer) :
    (call.success buffer).owing thread = [] ∧ (call.success buffer).out = [buffer] := by
  cases call with
  | encode tag text => exact ⟨rfl, rfl⟩
  | decode tag bytes =>
    refine ⟨rfl, ?_⟩
    simp only [success, CodecStage.out]
    cases buffer.decode <;> rfl

namespace Host

open EngineSide (Accounts Balances)

variable {start : EngineSide} {host : Host} {owing : List ThreadId} {out : List Buffer}
  {log : List Crossing} {thread : ThreadId}

theorem advanceCodec_accounts {call : CodecCall} {stage : CodecStage}
    (h : Accounts start host.side (stage.owing thread ++ owing) (stage.out ++ out) log)
    (answers : call.Answers (call.told thread host.side stage)) :
    Accounts start (library.advanceCodec thread call stage host).2.side
      ((library.advanceCodec thread call stage host).1.owing thread ++ owing)
      ((library.advanceCodec thread call stage host).1.out ++ out) log := by
  cases stage with
  | freeing buffers result =>
    cases buffers with
    | nil => exact h
    | cons buffer buffers => exact Balances.release h
  | answered status slots =>
    simp only [NativeLibrary.advanceCodec, NativeLibrary.settleCodec]
    cases taken : slots.take with
    | error violation =>
      simp only [CodecCall.told, taken] at answers
      exact absurd rfl (answers.ne_fault violation)
    | ok buffer =>
      have written : (CodecStage.answered status slots).out = buffer.toList := by
        cases slots with
        | written written => cases taken; rfl
        | null length => cases length <;> cases taken; rfl
      rw [written] at h
      by_cases success : status = Status.ok
      · simp only [CodecStage.owing, if_pos success] at h
        cases buffer with
        | none =>
          simp only [if_pos success]
          exact h
        | some buffer =>
          obtain ⟨owes, holds⟩ := call.success_out thread buffer
          simp only [if_pos success, owes, holds]
          exact h
      · simp only [CodecStage.owing, if_neg success] at h
        obtain ⟨detail, host₁, read, accounts⟩ := takeDetail_accounts h
        simp only [if_neg success, read]
        simpa [CodecStage.owing, CodecStage.out, CodecResult.frames] using accounts

end Host

end EngineBridge
