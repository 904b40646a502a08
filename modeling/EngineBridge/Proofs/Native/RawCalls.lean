import EngineBridge.Native.RawCalls
import EngineBridge.Proofs.Basic
import EngineBridge.Proofs.Native.Host
/-!
# What the functions that hand out bytes promise

`calls_keep_contract`: after any calls from any threads, with whatever arguments and whatever the
slots held before, the next call's status, slots, last error and buffers are those that its
arguments and the calls before it say.

What a call comes to is told by its arguments alone (`Gives`, `Fails`), with one cause of failure
going before another, and what a thread's place holds by the calls that were made and what they
answered (`LastRecord`).  `Steps` says once what a call can do.
-/

namespace EngineBridge

/-! ## Arguments -/

namespace EngineSide

/-- The argument is there and is a text. -/
def Reads (argument : Option CText) (text : String) : Prop :=
  ∃ sent, argument = some sent ∧ sent.decode = .ok text

/-- Why a text that must be there cannot be used. -/
inductive Refuses (what : String) : Option CText → EngineError → Prop where
  | null : Refuses what none (.invalidArgument ("null " ++ what))
  | notText {sent : CText} {fault : Utf8.Fault} (fails : sent.decode = .error fault) :
      Refuses what (some sent) (.invalidArgument (what ++ " is not UTF-8: " ++ fault.message))

/-- The bytes that an argument stands for; null stands for none if the length is zero. -/
def Denotes (bytes : Option (List UInt8)) (length : Nat) (content : List UInt8) : Prop :=
  bytes = some content ∨ bytes = none ∧ length = 0 ∧ content = []

/-- Null with a length stands for nothing. -/
def DenotesNothing (bytes : Option (List UInt8)) (length : Nat) : Prop := bytes = none ∧ length ≠ 0

variable {what : String} {argument : Option CText} {text : String} {error : EngineError}
  {bytes : Option (List UInt8)} {length : Nat} {content : List UInt8}

theorem requiredText_ok_iff : requiredText what argument = .ok text ↔ Reads argument text := by
  cases argument with
  | none => simp [requiredText, textArgument, Reads]
  | some sent =>
    cases is : sent.decode <;> simp [requiredText, textArgument, Reads, is]

theorem requiredText_error_iff :
    requiredText what argument = .error error ↔ Refuses what argument error := by
  constructor
  · intro is
    cases argument with
    | none =>
      simp only [requiredText, textArgument, Except.error.injEq] at is
      exact is ▸ .null
    | some sent =>
      cases decoded : sent.decode with
      | ok text => simp [requiredText, textArgument, decoded] at is
      | error fault =>
        simp only [requiredText, textArgument, decoded, Except.error.injEq] at is
        exact is ▸ .notText decoded
  · rintro (_ | fails)
    · rfl
    · simp only [requiredText, textArgument, fails]

theorem byteArgument_ok_iff :
    byteArgument bytes length = .ok content ↔ Denotes bytes length content := by
  cases bytes with
  | some given => simp [byteArgument, Denotes]
  | none =>
    by_cases zero : length = 0 <;> simp [byteArgument, Denotes, zero, eq_comm]

theorem byteArgument_error_iff :
    byteArgument bytes length = .error error ↔
      DenotesNothing bytes length ∧ error = .invalidArgument "null bytes" := by
  cases bytes with
  | some given => simp [byteArgument, DenotesNothing]
  | none =>
    by_cases zero : length = 0 <;> simp [byteArgument, DenotesNothing, zero, eq_comm]

/-- Frames that are stored are those of the engine at work. -/
theorem encodingWith_store (tag text : Option CText) :
    encodingWith Zlib.store tag text = encoding tag text := rfl

end EngineSide

/-! ## Requests -/

namespace CodecRequest

open EngineSide (Reads Refuses Denotes DenotesNothing)

variable {compress : List UInt8 → List UInt8}

/-- The bytes that a request asks for. -/
inductive Gives (compress : List UInt8 → List UInt8) : CodecRequest → List UInt8 → Prop where
  | frame {tag text : Option CText} {name content : String} {frame : List UInt8}
      (tagReads : Reads tag name) (textReads : Reads text content)
      (encoded : Frame.encodeWith compress name content = .ok frame) :
      Gives compress (.encode tag text) frame
  | text {tag : Option CText} {bytes : Option (List UInt8)} {length : Nat} {name text : String}
      {content : List UInt8} (tagReads : Reads tag name) (denotes : Denotes bytes length content)
      (decoded : Frame.decode name content = .ok text) :
      Gives compress (.decode tag bytes length) (Utf8.encode text)

/-- Why a request fails: the tag is looked at first, then the other argument, and a frame is made or
taken apart only when both can be used. -/
inductive Fails (compress : List UInt8 → List UInt8) : CodecRequest → EngineError → Prop where
  | encodeTag {tag text : Option CText} {error : EngineError}
      (refuses : Refuses "type tag" tag error) : Fails compress (.encode tag text) error
  | encodeText {tag text : Option CText} {name : String} {error : EngineError}
      (tagReads : Reads tag name) (refuses : Refuses "text" text error) :
      Fails compress (.encode tag text) error
  | encodeFrame {tag text : Option CText} {name content : String} {error : EngineError}
      (tagReads : Reads tag name) (textReads : Reads text content)
      (refused : Frame.encodeWith compress name content = .error error) :
      Fails compress (.encode tag text) error
  | decodeTag {tag : Option CText} {bytes : Option (List UInt8)} {length : Nat}
      {error : EngineError} (refuses : Refuses "type tag" tag error) :
      Fails compress (.decode tag bytes length) error
  | decodeBytes {tag : Option CText} {bytes : Option (List UInt8)} {length : Nat} {name : String}
      (tagReads : Reads tag name) (nothing : DenotesNothing bytes length) :
      Fails compress (.decode tag bytes length) (.invalidArgument "null bytes")
  | decodeFrame {tag : Option CText} {bytes : Option (List UInt8)} {length : Nat} {name : String}
      {content : List UInt8} {error : EngineError} (tagReads : Reads tag name)
      (denotes : Denotes bytes length content)
      (refused : Frame.decode name content = .error error) :
      Fails compress (.decode tag bytes length) error

/-- **What a request gives.** -/
theorem result_ok_iff {request : CodecRequest} {bytes : List UInt8} :
    request.result compress = .ok bytes ↔ request.Gives compress bytes := by
  cases request with
  | encode tag text =>
    simp only [result, EngineSide.encodingWith, bind_ok_iff, EngineSide.requiredText_ok_iff]
    constructor
    · rintro ⟨name, tagReads, content, textReads, encoded⟩
      exact .frame tagReads textReads encoded
    · rintro ⟨tagReads, textReads, encoded⟩
      exact ⟨_, tagReads, _, textReads, encoded⟩
  | decode tag given length =>
    simp only [result, EngineSide.decoding, bind_ok_iff, EngineSide.requiredText_ok_iff,
      EngineSide.byteArgument_ok_iff]
    constructor
    · rintro ⟨name, tagReads, content, denotes, text, decoded, is⟩
      obtain rfl := Except.ok.inj is
      exact .text tagReads denotes decoded
    · rintro (_ | ⟨tagReads, denotes, decoded⟩)
      exact ⟨_, tagReads, _, denotes, _, decoded, rfl⟩

/-- **Why a request fails.** -/
theorem result_error_iff {request : CodecRequest} {error : EngineError} :
    request.result compress = .error error ↔ request.Fails compress error := by
  cases request with
  | encode tag text =>
    simp only [result, EngineSide.encodingWith, bind_error_iff, EngineSide.requiredText_ok_iff,
      EngineSide.requiredText_error_iff]
    constructor
    · rintro (refuses | ⟨name, tagReads, refuses | ⟨content, textReads, refused⟩⟩)
      · exact .encodeTag refuses
      · exact .encodeText tagReads refuses
      · exact .encodeFrame tagReads textReads refused
    · rintro (refuses | ⟨tagReads, refuses⟩ | ⟨tagReads, textReads, refused⟩)
      · exact .inl refuses
      · exact .inr ⟨_, tagReads, .inl refuses⟩
      · exact .inr ⟨_, tagReads, .inr ⟨_, textReads, refused⟩⟩
  | decode tag given length =>
    simp only [result, EngineSide.decoding, bind_error_iff, EngineSide.requiredText_ok_iff,
      EngineSide.requiredText_error_iff, EngineSide.byteArgument_ok_iff,
      EngineSide.byteArgument_error_iff, pure, Except.pure, reduceCtorEq, and_false, exists_false,
      or_false]
    constructor
    · rintro (refuses | ⟨name, tagReads, ⟨nothing, rfl⟩ | ⟨content, denotes, refused⟩⟩)
      · exact .decodeTag refuses
      · exact .decodeBytes tagReads nothing
      · exact .decodeFrame tagReads denotes refused
    · rintro (_ | _ | _ | refuses | ⟨tagReads, nothing⟩ | ⟨tagReads, denotes, refused⟩)
      · exact .inl refuses
      · exact .inr ⟨_, tagReads, .inl ⟨nothing, rfl⟩⟩
      · exact .inr ⟨_, tagReads, .inr ⟨_, denotes, refused⟩⟩

end CodecRequest

/-! ## Slots and calls -/

namespace OutMemory

/-- Neither parameter is null. -/
def IsComplete (memory : OutMemory) : Prop := memory.pointer.isSome ∧ memory.length.isSome

instance (memory : OutMemory) : Decidable memory.IsComplete := inferInstanceAs (Decidable (_ ∧ _))

/-- The slots that hold nothing. -/
def cleared : OutMemory := ⟨some nowhere, some 0⟩

/-- The slots that lead to a buffer. -/
def leadingTo (buffer : Buffer) : OutMemory := ⟨some buffer.address, some buffer.length⟩

/-- The slots of a call that hands out nothing: nothing is written through one of them alone. -/
def spared (memory : OutMemory) : OutMemory := if memory.IsComplete then cleared else memory

variable {memory : OutMemory}

theorem parameters_isIncomplete : memory.parameters.isIncomplete = true ↔ ¬ memory.IsComplete := by
  obtain ⟨pointer, length⟩ := memory
  cases pointer <;> cases length <;>
    simp [parameters, OutParameters.isIncomplete, IsComplete]

theorem IsComplete.holding (complete : memory.IsComplete) (pointer length : Nat) :
    memory.holding pointer length = ⟨some pointer, some length⟩ := by
  obtain ⟨_ | _, _ | _⟩ := memory
  · simp [IsComplete] at complete
  · simp [IsComplete] at complete
  · simp [IsComplete] at complete
  · rfl

theorem spared_ne_leadingTo {buffer : Buffer} (somewhere : buffer.address ≠ nowhere) :
    memory.spared ≠ leadingTo buffer := by
  intro same
  rw [spared] at same
  split at same
  · exact somewhere (Option.some.inj (congrArg OutMemory.pointer same)).symm
  · rename_i incomplete
    exact incomplete (same ▸ ⟨rfl, rfl⟩)

end OutMemory

namespace RawCall

/-- The failure that a call raises on its thread; without both slots nothing else is looked at. -/
inductive Raises (compress : List UInt8 → List UInt8) :
    RawCall → ThreadId → EngineError → Prop where
  | nowhere {thread : ThreadId} {request : CodecRequest} {out : OutMemory}
      (incomplete : ¬ out.IsComplete) :
      Raises compress (.codec thread request out) thread EngineSide.nullOutParameter
  | request {thread : ThreadId} {request : CodecRequest} {out : OutMemory} {error : EngineError}
      (complete : out.IsComplete) (fails : request.Fails compress error) :
      Raises compress (.codec thread request out) thread error

/-- Whether a call takes the last error of a thread. -/
def Takes (call : RawCall) (thread : ThreadId) : Prop :=
  ∃ out, call = .takeLastError thread out ∧ out.IsComplete

/-- Whether a call may be made by those who hold some buffers: what is given back is held. -/
def MayBeMade (call : RawCall) (held : List Buffer) : Prop :=
  ∀ buffer, call = .release (.written buffer) → buffer ∈ held

variable {compress : List UInt8 → List UInt8} {call : RawCall} {thread other : ThreadId}
  {request : CodecRequest} {out : OutMemory} {error error' : EngineError} {bytes : List UInt8}

theorem Raises.unique (raises : call.Raises compress thread error)
    (again : call.Raises compress other error') : other = thread ∧ error' = error := by
  cases raises with
  | nowhere incomplete =>
    cases again with
    | nowhere _ => exact ⟨rfl, rfl⟩
    | request complete _ => exact absurd complete incomplete
  | request complete fails =>
    cases again with
    | nowhere incomplete => exact absurd complete incomplete
    | request _ fails' =>
      have is := CodecRequest.result_error_iff.2 fails
      exact ⟨rfl, Except.error.inj ((CodecRequest.result_error_iff.2 fails').symm.trans is)⟩

theorem not_raises_of_gives (complete : out.IsComplete) (gives : request.Gives compress bytes) :
    ¬ (codec thread request out).Raises compress other error := by
  intro raises
  cases raises with
  | nowhere incomplete => exact incomplete complete
  | request _ fails =>
    have is := CodecRequest.result_ok_iff.2 gives
    simp [CodecRequest.result_error_iff.2 fails] at is

theorem not_raises_take : ¬ (takeLastError thread out).Raises compress other error := nofun

theorem not_raises_release {slots : OutSlots} :
    ¬ (release slots).Raises compress thread error := nofun

end RawCall

/-! ## What a call can do -/

namespace RawSide

open OutMemory (cleared leadingTo)

variable {compress : List UInt8 → List UInt8} {call : RawCall} {answer : RawAnswer} {s s' : RawSide}

/-- The buffer that is handed out next. -/
def next (bytes : List UInt8) (s : RawSide) : Buffer := ⟨s.side.nextAddress, bytes⟩

/-- What a call answers and leaves. -/
inductive Steps (compress : List UInt8 → List UInt8) (s : RawSide) :
    RawCall → RawAnswer → RawSide → Prop where
  | makes {thread : ThreadId} {request : CodecRequest} {out : OutMemory} {bytes : List UInt8}
      (complete : out.IsComplete) (gives : request.Gives compress bytes) :
      Steps compress s (.codec thread request out) ⟨some .ok, leadingTo (s.next bytes)⟩
        ⟨(s.side.allocate bytes).2, s.next bytes :: s.held⟩
  | raises {thread : ThreadId} {request : CodecRequest} {out : OutMemory} {error : EngineError}
      (raises : (RawCall.codec thread request out).Raises compress thread error) :
      Steps compress s (.codec thread request out) ⟨some error.status, out.spared⟩
        ⟨s.side.record thread error, s.held⟩
  /-- There is nothing to take, or nowhere to put it. -/
  | leaves {thread : ThreadId} {out : OutMemory}
      (nothing : out.IsComplete → s.side.lastError thread = none) :
      Steps compress s (.takeLastError thread out) ⟨none, out.spared⟩ s
  | takes {thread : ThreadId} {out : OutMemory} {text : String} (complete : out.IsComplete)
      (last : s.side.lastError thread = some text) :
      Steps compress s (.takeLastError thread out) ⟨none, leadingTo (s.next (Utf8.encode text))⟩
        ⟨((s.side.take thread).2.allocate (Utf8.encode text)).2,
          s.next (Utf8.encode text) :: s.held⟩
  | releasesNull {length : Nat} :
      Steps compress s (.release (.null length)) ⟨none, none, none⟩ s
  | releases {buffer : Buffer} (held : buffer ∈ s.held) :
      Steps compress s (.release (.written buffer)) ⟨none, none, none⟩
        ⟨s.side.release buffer, s.held.erase buffer⟩

theorem take_some {thread : ThreadId} {side : EngineSide} {text : String}
    (last : side.lastError thread = some text) :
    side.take thread = (some text,
      { side with
        counters := { side.counters with taken := side.counters.taken + 1 }
        lastError := fun t => if t = thread then none else side.lastError t }) := by
  rw [EngineSide.take, last]

theorem take_nextAddress (thread : ThreadId) (side : EngineSide) :
    (side.take thread).2.nextAddress = side.nextAddress := by
  unfold EngineSide.take
  split <;> rfl

theorem step_codec {thread : ThreadId} {request : CodecRequest} {out : OutMemory}
    (stepped : s.step compress (.codec thread request out) = some (answer, s')) :
    Steps compress s (.codec thread request out) answer s' := by
  simp only [step, EngineSide.guarded, OutMemory.parameters_isIncomplete] at stepped
  by_cases complete : out.IsComplete
  · rw [if_neg (not_not_intro complete)] at stepped
    cases is : request.result compress with
    | ok bytes =>
      simp only [is, EngineSide.deliver, EngineSide.allocate, answered, OutMemory.after,
        complete.holding, Option.some.injEq, Prod.mk.injEq] at stepped
      obtain ⟨rfl, rfl⟩ := stepped
      exact .makes complete (CodecRequest.result_ok_iff.1 is)
    | error error =>
      have fails : request.Fails compress error := CodecRequest.result_error_iff.1 is
      have ends : Steps compress s (.codec thread request out) _ _ :=
        .raises (.request complete fails)
      simp only [is, EngineSide.deliver, answered, OutSlots.untouched, OutMemory.after,
        complete.holding, Option.some.injEq, Prod.mk.injEq] at stepped
      obtain ⟨rfl, rfl⟩ := stepped
      rwa [OutMemory.spared, if_pos complete] at ends
  · have ends : Steps compress s (.codec thread request out) _ _ := .raises (.nowhere complete)
    rw [if_pos complete] at stepped
    simp only [answered, OutMemory.after, Option.some.injEq, Prod.mk.injEq] at stepped
    obtain ⟨rfl, rfl⟩ := stepped
    rwa [OutMemory.spared, if_neg complete] at ends

theorem step_takeLastError {thread : ThreadId} {out : OutMemory}
    (stepped : s.step compress (.takeLastError thread out) = some (answer, s')) :
    Steps compress s (.takeLastError thread out) answer s' := by
  simp only [step, EngineSide.takeLastError, OutMemory.parameters_isIncomplete] at stepped
  by_cases complete : out.IsComplete
  · rw [if_neg (not_not_intro complete)] at stepped
    cases last : s.side.lastError thread with
    | none =>
      have ends : Steps compress s (.takeLastError thread out) _ _ := .leaves fun _ => last
      simp only [EngineSide.take, last, answered, OutSlots.untouched, OutMemory.after,
        complete.holding, Option.some.injEq, Prod.mk.injEq] at stepped
      obtain ⟨rfl, rfl⟩ := stepped
      rwa [OutMemory.spared, if_pos complete] at ends
    | some text =>
      have ends : Steps compress s (.takeLastError thread out) _ _ := .takes complete last
      simp only [EngineSide.take, last] at ends
      simp only [EngineSide.take, last, EngineSide.allocate, answered, OutMemory.after,
        complete.holding, Option.some.injEq, Prod.mk.injEq] at stepped
      obtain ⟨rfl, rfl⟩ := stepped
      exact ends
  · have ends : Steps compress s (.takeLastError thread out) _ _ :=
      .leaves fun complete' => absurd complete' complete
    rw [if_pos complete] at stepped
    simp only [answered, OutMemory.after, Option.some.injEq, Prod.mk.injEq] at stepped
    obtain ⟨rfl, rfl⟩ := stepped
    rwa [OutMemory.spared, if_neg complete] at ends

theorem step_release {slots : OutSlots}
    (stepped : s.step compress (.release slots) = some (answer, s')) :
    Steps compress s (.release slots) answer s' := by
  cases slots with
  | null length =>
    simp only [step, OutSlots.buffer?, EngineSide.releaseSlots, Option.some.injEq,
      Prod.mk.injEq] at stepped
    obtain ⟨rfl, rfl⟩ := stepped
    exact .releasesNull
  | written buffer =>
    simp only [step, OutSlots.buffer?, EngineSide.releaseSlots] at stepped
    split at stepped
    · rename_i held
      simp only [Option.some.injEq, Prod.mk.injEq] at stepped
      obtain ⟨rfl, rfl⟩ := stepped
      exact .releases held
    · simp at stepped

/-- **What a call can do.** -/
theorem step_steps (stepped : s.step compress call = some (answer, s')) :
    Steps compress s call answer s' := by
  cases call with
  | codec thread request out => exact step_codec stepped
  | takeLastError thread out => exact step_takeLastError stepped
  | release slots => exact step_release stepped

/-- A call leaves the last errors of other threads alone. -/
theorem Steps.others {t : ThreadId} (steps : Steps compress s call answer s')
    (other : call.thread? ≠ some t) : s'.side.lastError t = s.side.lastError t := by
  cases steps with
  | raises raises =>
    exact EngineSide.record_lastError_of_ne _ fun same => other (congrArg some same.symm)
  | @takes thread out text complete last =>
    have apart : t ≠ thread := fun same => other (congrArg some same.symm)
    simp [take_some last, EngineSide.allocate, apart]
  | makes => rfl
  | leaves => rfl
  | releasesNull => rfl
  | releases => rfl

theorem Steps.callbacks (steps : Steps compress s call answer s') :
    s'.side.counters.callbacks = s.side.counters.callbacks := by
  cases steps with
  | takes _ last => rw [take_some last]; rfl
  | _ => rfl

theorem step_isSome_iff : (s.step compress call).isSome ↔ call.MayBeMade s.held := by
  cases call with
  | codec thread request out => simp [step, RawCall.MayBeMade]
  | takeLastError thread out => simp [step, RawCall.MayBeMade]
  | release slots =>
    cases slots with
    | null length => simp [step, OutSlots.buffer?, RawCall.MayBeMade]
    | written buffer =>
      by_cases held : buffer ∈ s.held <;> simp [step, OutSlots.buffer?, RawCall.MayBeMade, held]

end RawSide

/-! ## What was called -/

/-- A call and what it answered. -/
structure RawEvent where
  call : RawCall
  answer : RawAnswer

namespace RawEvent

/-- Whether bytes were made. -/
def made (event : RawEvent) : Bool := event.answer.status = some Status.ok

/-- Whether a failure was reported. -/
def failed (event : RawEvent) : Bool := event.answer.status.any fun status => status ≠ Status.ok

/-- Whether a last error was moved out: the pointer that a take has left leads somewhere. -/
def moved (event : RawEvent) : Bool :=
  match event.call with
  | .takeLastError _ out => out.IsComplete ∧ event.answer.memory.pointer ≠ some OutMemory.nowhere
  | _ => false

/-- Whether a buffer was given back. -/
def gaveBack (event : RawEvent) : Bool :=
  match event.call with
  | .release (.written _) => true
  | _ => false

end RawEvent

/-- The record that was set last on a thread, of those that the thread has not taken since; the last
event comes first. -/
inductive LastRecord (compress : List UInt8 → List UInt8) (thread : ThreadId) :
    List RawEvent → String → Prop where
  | set {event : RawEvent} {past : List RawEvent} {error : EngineError}
      (raises : event.call.Raises compress thread error) :
      LastRecord compress thread (event :: past) error.record.text
  | kept {event : RawEvent} {past : List RawEvent} {text : String}
      (silent : ∀ error, ¬ event.call.Raises compress thread error)
      (untaken : ¬ event.call.Takes thread) (before : LastRecord compress thread past text) :
      LastRecord compress thread (event :: past) text

namespace LastRecord

variable {compress : List UInt8 → List UInt8} {thread : ThreadId} {event : RawEvent}
  {past : List RawEvent} {text : String} {error : EngineError}

theorem not_nil : ¬ LastRecord compress thread [] text := nofun

/-- A failure takes the place of what was there. -/
theorem of_raises (raises : event.call.Raises compress thread error) :
    LastRecord compress thread (event :: past) text ↔ error.record.text = text := by
  constructor
  · intro last
    cases last with
    | set again => rw [(raises.unique again).2]
    | kept silent _ _ => exact absurd raises (silent error)
  · rintro rfl
    exact .set raises

theorem of_takes (takes : event.call.Takes thread) :
    ¬ LastRecord compress thread (event :: past) text := by
  intro last
  cases last with
  | set raises =>
    obtain ⟨out, is, -⟩ := takes
    rw [is] at raises
    exact RawCall.not_raises_take raises
  | kept _ untaken _ => exact untaken takes

theorem of_silent (silent : ∀ error, ¬ event.call.Raises compress thread error)
    (untaken : ¬ event.call.Takes thread) :
    LastRecord compress thread (event :: past) text ↔ LastRecord compress thread past text := by
  constructor
  · intro last
    cases last with
    | set raises => exact absurd raises (silent _)
    | kept _ _ before => exact before
  · exact .kept silent untaken

end LastRecord

namespace RawSide

open OutMemory (cleared leadingTo)

/-! ## What calls keep -/

/-- The counters say how often the calls that were made have ended in which way. -/
structure Tallies (past : List RawEvent) (counters : Counters) : Prop where
  /-- A last error that is moved out is a buffer. -/
  allocated : counters.allocated = past.countP RawEvent.made + past.countP RawEvent.moved
  released : counters.released = past.countP RawEvent.gaveBack
  callbacks : counters.callbacks = 0
  recorded : counters.recorded = past.countP RawEvent.failed
  taken : counters.taken = past.countP RawEvent.moved

theorem Tallies.cons {past : List RawEvent} {counters : Counters} (h : Tallies past counters)
    (event : RawEvent) :
    Tallies (event :: past)
      ⟨counters.allocated + (event.made.toNat + event.moved.toNat),
        counters.released + event.gaveBack.toNat, counters.callbacks,
        counters.recorded + event.failed.toNat, counters.taken + event.moved.toNat⟩ := by
  have cons (p : RawEvent → Bool) : (event :: past).countP p = past.countP p + (p event).toNat := by
    rw [List.countP_cons]
    cases p event <;> rfl
  have allocated := h.allocated
  refine ⟨?_, ?_, h.callbacks, ?_, ?_⟩
  · simp only [cons]
    omega
  · rw [cons, h.released]
  · rw [cons, h.recorded]
  · rw [cons, h.taken]

/-- The buffers that are held are those that are out, each at a place of its own. -/
structure Holds (s : RawSide) : Prop where
  balance : s.held.length + s.side.counters.released = s.side.counters.allocated
  live : s.side.live.Perm (s.held.map Buffer.address)
  /-- No place is handed out once more. -/
  fresh : ∀ buffer ∈ s.held, buffer.address < s.side.nextAddress
  somewhere : OutMemory.nowhere < s.side.nextAddress

namespace Holds

variable {s : RawSide} {side : EngineSide}

theorem congr (h : Holds s) (counters : side.counters.allocated = s.side.counters.allocated ∧
      side.counters.released = s.side.counters.released)
    (live : side.live = s.side.live) (next : side.nextAddress = s.side.nextAddress) :
    Holds ⟨side, s.held⟩ where
  balance := by rw [counters.1, counters.2]; exact h.balance
  live := by rw [live]; exact h.live
  fresh := by rw [next]; exact h.fresh
  somewhere := by rw [next]; exact h.somewhere

theorem next_somewhere (h : Holds s) (bytes : List UInt8) :
    (s.next bytes).address ≠ OutMemory.nowhere := Nat.ne_of_gt h.somewhere

theorem next_fresh (h : Holds s) (bytes : List UInt8) :
    ∀ buffer ∈ s.held, buffer.address ≠ (s.next bytes).address :=
  fun buffer member => Nat.ne_of_lt (h.fresh buffer member)

theorem allocate (h : Holds s) (bytes : List UInt8) :
    Holds ⟨(s.side.allocate bytes).2, s.next bytes :: s.held⟩ where
  balance := by
    have := h.balance
    simp only [EngineSide.allocate, List.length_cons]
    omega
  live := h.live.cons _
  fresh buffer member := by
    rcases List.mem_cons.1 member with rfl | member
    · exact Nat.lt_succ_self _
    · exact Nat.lt_succ_of_lt (h.fresh buffer member)
  somewhere := Nat.lt_succ_of_lt h.somewhere

theorem release (h : Holds s) {buffer : Buffer} (held : buffer ∈ s.held) :
    Holds ⟨s.side.release buffer, s.held.erase buffer⟩ where
  balance := by
    have := h.balance
    have := List.length_erase_of_mem held
    have := List.length_pos_of_mem held
    simp only [EngineSide.release]
    omega
  live := by
    have apart := (List.perm_cons_erase held).map Buffer.address
    have erased := (h.live.trans apart).erase buffer.address
    rwa [List.map_cons, List.erase_cons_head] at erased
  fresh other member := h.fresh other (List.mem_of_mem_erase member)
  somewhere := h.somewhere

end Holds

/-- What holds between the native side and the calls that were made, the last one first. -/
structure Sound (compress : List UInt8 → List UInt8) (past : List RawEvent) (s : RawSide) :
    Prop where
  places : ∀ thread text,
    s.side.lastError thread = some text ↔ LastRecord compress thread past text
  tallies : Tallies past s.side.counters
  holds : Holds s

variable {compress : List UInt8 → List UInt8} {past : List RawEvent} {call : RawCall}
  {answer : RawAnswer} {s s' : RawSide} {thread : ThreadId}

theorem initial_sound : Sound compress [] initial where
  places thread text := by simp [initial, EngineSide.initial, LastRecord.not_nil]
  tallies := ⟨rfl, rfl, rfl, rfl, rfl⟩
  holds := ⟨rfl, .refl _, nofun, by decide⟩

/-- The place of a thread that neither fails nor takes is left alone. -/
theorem Sound.places_silent {event : RawEvent} (h : Sound compress past s)
    (silent : ∀ error, ¬ event.call.Raises compress thread error)
    (untaken : ¬ event.call.Takes thread) (text : String) :
    s.side.lastError thread = some text ↔ LastRecord compress thread (event :: past) text :=
  (h.places thread text).trans (LastRecord.of_silent silent untaken).symm

/-- A call sets, empties or leaves the place of its thread as the history says. -/
theorem Sound.steps_places (h : Sound compress past s) (steps : Steps compress s call answer s')
    (t : ThreadId) (text : String) :
    s'.side.lastError t = some text ↔ LastRecord compress t (⟨call, answer⟩ :: past) text := by
  cases steps with
  | @makes thread request out bytes complete gives =>
    refine h.places_silent (fun _ => RawCall.not_raises_of_gives complete gives) ?_ text
    rintro ⟨_, ⟨⟩, -⟩
  | @raises thread request out error raises =>
    by_cases same : t = thread
    · subst same
      rw [EngineSide.record_lastError, LastRecord.of_raises raises, Option.some.injEq]
    · rw [EngineSide.record_lastError_of_ne error same]
      refine h.places_silent (fun _ again => same (raises.unique again).1) ?_ text
      rintro ⟨_, ⟨⟩, -⟩
  | @leaves thread out nothing =>
    by_cases takes : RawCall.Takes (.takeLastError thread out) t
    · -- what is taken is nothing
      have taken := takes
      obtain ⟨_, ⟨⟩, complete⟩ := taken
      simp only [nothing complete, reduceCtorEq, false_iff]
      exact LastRecord.of_takes takes
    · exact h.places_silent (fun _ => RawCall.not_raises_take) takes text
  | @takes thread out taken complete last =>
    rw [take_some last]
    by_cases same : t = thread
    · subst same
      have takes : RawCall.Takes (.takeLastError t out) t := ⟨out, rfl, complete⟩
      simp only [EngineSide.allocate, if_true, reduceCtorEq, false_iff]
      exact LastRecord.of_takes takes
    · simp only [EngineSide.allocate, same, if_false]
      refine h.places_silent (fun _ => RawCall.not_raises_take) ?_ text
      rintro ⟨_, ⟨⟩, -⟩
      exact same rfl
  | @releasesNull length =>
    refine h.places_silent (fun _ => RawCall.not_raises_release) ?_ text
    rintro ⟨_, ⟨⟩, -⟩
  | @releases buffer held =>
    refine h.places_silent (fun _ => RawCall.not_raises_release) ?_ text
    rintro ⟨_, ⟨⟩, -⟩

theorem Sound.steps_tallies (h : Sound compress past s)
    (steps : Steps compress s call answer s') :
    Tallies (⟨call, answer⟩ :: past) s'.side.counters := by
  cases steps with
  | makes => exact h.tallies.cons ⟨_, _⟩
  | @raises thread request out error raises =>
    have counted := h.tallies.cons ⟨.codec thread request out, ⟨some error.status, out.spared⟩⟩
    simpa [RawEvent.made, RawEvent.moved, RawEvent.gaveBack, RawEvent.failed,
      EngineSide.record, error.status_ne_ok] using counted
  | @leaves thread out nothing =>
    have counted := h.tallies.cons ⟨.takeLastError thread out, ⟨none, out.spared⟩⟩
    by_cases complete : out.IsComplete <;>
      simpa [RawEvent.made, RawEvent.moved, RawEvent.gaveBack, RawEvent.failed,
        OutMemory.spared, OutMemory.cleared, complete] using counted
  | @takes thread out text complete last =>
    have counted := h.tallies.cons
      ⟨.takeLastError thread out, ⟨none, leadingTo (s.next (Utf8.encode text))⟩⟩
    -- a place that leads somewhere is how the history tells that something was moved
    have somewhere := h.holds.next_somewhere (Utf8.encode text)
    rw [take_some last]
    simpa [RawEvent.made, RawEvent.moved, RawEvent.gaveBack, RawEvent.failed, leadingTo,
      EngineSide.allocate, complete, somewhere] using counted
  | releasesNull => exact h.tallies.cons ⟨_, _⟩
  | releases => exact h.tallies.cons ⟨_, _⟩

/-- Buffers are handed out at places of their own, and given back once. -/
theorem Holds.steps (h : Holds s) (steps : Steps compress s call answer s') : Holds s' := by
  cases steps with
  | @makes _ _ _ bytes => exact h.allocate bytes
  | raises => exact h.congr ⟨rfl, rfl⟩ rfl rfl
  | leaves => exact h
  | @takes thread _ text _ last =>
    -- two things happen: the place is emptied, and its text becomes a buffer
    have emptied : Holds ⟨(s.side.take thread).2, s.held⟩ := by
      rw [take_some last]
      exact h.congr ⟨rfl, rfl⟩ rfl rfl
    have allocated := emptied.allocate (Utf8.encode text)
    rwa [next, take_nextAddress] at allocated
  | releasesNull => exact h
  | releases held => exact h.release held

/-- **Calls keep what holds.** -/
theorem Sound.steps (h : Sound compress past s) (steps : Steps compress s call answer s') :
    Sound compress (⟨call, answer⟩ :: past) s' :=
  ⟨h.steps_places steps, h.steps_tallies steps, h.holds.steps steps⟩

/-- The calls of a run and what they answered, the last one first. -/
def events (calls : List RawCall) (answers : List RawAnswer) : List RawEvent :=
  (calls.zipWith RawEvent.mk answers).reverse

/-- **Runs keep what holds.** -/
theorem Sound.run {calls : List RawCall} {answers : List RawAnswer} (h : Sound compress past s)
    (ran : s.run compress calls = some (answers, s')) :
    Sound compress (events calls answers ++ past) s' := by
  induction calls generalizing past s answers with
  | nil =>
    simp only [RawSide.run, Option.some.injEq, Prod.mk.injEq] at ran
    obtain ⟨rfl, rfl⟩ := ran
    exact h
  | cons call calls ih =>
    rw [RawSide.run] at ran
    split at ran
    · simp at ran
    · rename_i answer s₁ stepped
      split at ran
      · simp at ran
      · rename_i answers' s₂ further
        simp only [Option.some.injEq, Prod.mk.injEq] at ran
        obtain ⟨rfl, rfl⟩ := ran
        have sound := ih (h.steps (step_steps stepped)) further
        simpa [events] using sound

/-! ## What a call promises -/

/-- A call has handed bytes out: its slots lead to them, at a place where nothing else is held. -/
def HandsOut (s : RawSide) (bytes : List UInt8) (answer : RawAnswer) (s' : RawSide) : Prop :=
  ∃ address, address ≠ OutMemory.nowhere ∧ (∀ buffer ∈ s.held, buffer.address ≠ address) ∧
    answer.memory = leadingTo ⟨address, bytes⟩ ∧ s'.held = ⟨address, bytes⟩ :: s.held

theorem Holds.handsOut (h : Holds s) {bytes : List UInt8}
    (memory : answer.memory = leadingTo (s.next bytes))
    (held : s'.held = s.next bytes :: s.held) : HandsOut s bytes answer s' :=
  ⟨_, h.next_somewhere bytes, h.next_fresh bytes, memory, held⟩

/-- What a call that makes bytes does. -/
structure CodecContract (compress : List UInt8 → List UInt8) (s : RawSide) (thread : ThreadId)
    (request : CodecRequest) (out : OutMemory) (answer : RawAnswer) (s' : RawSide) : Prop where
  /-- Success is reported exactly with a pointer to what was asked for, and its length. -/
  succeeds_iff : answer.status = some Status.ok ↔
    ∃ buffer : Buffer, buffer.address ≠ OutMemory.nowhere ∧ request.Gives compress buffer.bytes ∧
      answer.memory = leadingTo buffer
  /-- Bytes are handed out, and no thread's last error changes. -/
  gives : out.IsComplete → ∀ bytes, request.Gives compress bytes →
    answer.status = some Status.ok ∧ HandsOut s bytes answer s' ∧
      s'.side.lastError = s.side.lastError
  /-- A failure is reported and recorded in place of an earlier one, and nothing is handed out. -/
  fails : ∀ error, (RawCall.codec thread request out).Raises compress thread error →
    answer.status = some error.status ∧ error.status ≠ Status.ok ∧ answer.memory = out.spared ∧
      s'.held = s.held ∧ s'.side.lastError thread = some error.record.text
  /-- Without both slots the call is refused, and nothing is written through the other one. -/
  refuses : ¬ out.IsComplete → answer.status = some Status.invalidArgument ∧ answer.memory = out
  /-- There is no third way. -/
  decides : (out.IsComplete ∧ ∃ bytes, request.Gives compress bytes) ∨
    ∃ error, (RawCall.codec thread request out).Raises compress thread error
  others : ∀ t, t ≠ thread → s'.side.lastError t = s.side.lastError t

/-- What taking a thread's last error does, after some calls. -/
structure TakeContract (compress : List UInt8 → List UInt8) (past : List RawEvent) (s : RawSide)
    (thread : ThreadId) (out : OutMemory) (answer : RawAnswer) (s' : RawSide) : Prop where
  /-- The last record is moved out. -/
  moves : out.IsComplete → ∀ text, LastRecord compress thread past text →
    HandsOut s (Utf8.encode text) answer s' ∧ s'.side.lastError thread = none
  /-- Without a record there is nothing to move. -/
  clears : out.IsComplete → (∀ text, ¬ LastRecord compress thread past text) →
    answer.memory = cleared ∧ s' = s
  /-- Without both slots nothing is written, and the record stays. -/
  refuses : ¬ out.IsComplete → answer.memory = out ∧ s' = s
  others : ∀ t, t ≠ thread → s'.side.lastError t = s.side.lastError t

/-- What giving back does. -/
structure ReleaseContract (slots : OutSlots) (s s' : RawSide) : Prop where
  nothing : slots.buffer? = none → s' = s
  returns : ∀ buffer, slots.buffer? = some buffer → s'.held = s.held.erase buffer
  places : s'.side.lastError = s.side.lastError

/-- What a call does, after some calls. -/
structure Contract (compress : List UInt8 → List UInt8) (past : List RawEvent) (s : RawSide)
    (call : RawCall) (answer : RawAnswer) (s' : RawSide) : Prop where
  codec : ∀ thread request out, call = .codec thread request out →
    CodecContract compress s thread request out answer s'
  take : ∀ thread out, call = .takeLastError thread out →
    TakeContract compress past s thread out answer s'
  release : ∀ slots, call = .release slots → ReleaseContract slots s s'
  /-- Each place holds the last record that was set on its thread and not taken since. -/
  places : ∀ thread text,
    s'.side.lastError thread = some text ↔ LastRecord compress thread (⟨call, answer⟩ :: past) text
  tallies : Tallies (⟨call, answer⟩ :: past) s'.side.counters
  holds : Holds s'

theorem Steps.codec {request : CodecRequest} {out : OutMemory} (holds : Holds s)
    (steps : Steps compress s (.codec thread request out) answer s') :
    CodecContract compress s thread request out answer s' := by
  have others (t : ThreadId) (other : t ≠ thread) := steps.others (t := t) fun same =>
    other (Option.some.inj same).symm
  cases steps with
  | @makes _ _ _ bytes complete gives =>
    have is := CodecRequest.result_ok_iff.2 gives
    refine ⟨iff_of_true rfl ⟨_, holds.next_somewhere bytes, gives, rfl⟩, fun _ bytes' gives' => ?_,
      fun error raises => absurd raises (RawCall.not_raises_of_gives complete gives),
      fun incomplete => absurd complete incomplete, .inl ⟨complete, bytes, gives⟩, others⟩
    obtain rfl := Except.ok.inj (is.symm.trans (CodecRequest.result_ok_iff.2 gives'))
    exact ⟨rfl, holds.handsOut rfl rfl, rfl⟩
  | @raises _ _ _ error raises =>
    have failure : some error.status ≠ some Status.ok := fun same =>
      error.status_ne_ok (Option.some.inj same)
    refine ⟨iff_of_false failure ?_, fun complete bytes gives => ?_, fun other again => ?_,
      fun incomplete => ?_, .inr ⟨error, raises⟩, others⟩
    · rintro ⟨buffer, somewhere, -, memory⟩
      exact OutMemory.spared_ne_leadingTo somewhere memory
    · exact absurd raises (RawCall.not_raises_of_gives complete gives)
    · obtain ⟨-, rfl⟩ := raises.unique again
      exact ⟨rfl, other.status_ne_ok, rfl, rfl, EngineSide.record_lastError other⟩
    · obtain ⟨-, rfl⟩ := raises.unique (.nowhere incomplete)
      exact ⟨rfl, if_neg incomplete⟩

theorem Steps.take {out : OutMemory} (h : Sound compress past s)
    (steps : Steps compress s (.takeLastError thread out) answer s') :
    TakeContract compress past s thread out answer s' := by
  have others (t : ThreadId) (other : t ≠ thread) := steps.others (t := t) fun same =>
    other (Option.some.inj same).symm
  cases steps with
  | leaves nothing =>
    refine ⟨fun complete text last => ?_, fun complete _ => ⟨if_pos complete, rfl⟩,
      fun incomplete => ⟨if_neg incomplete, rfl⟩, others⟩
    have found := (h.places thread text).2 last
    simp [nothing complete] at found
  | @takes _ _ text complete last =>
    refine ⟨fun _ other is => ?_, fun _ none => absurd ((h.places thread text).1 last) (none text),
      fun incomplete => absurd complete incomplete, others⟩
    obtain rfl := Option.some.inj (last.symm.trans ((h.places thread other).2 is))
    refine ⟨h.holds.handsOut rfl rfl, ?_⟩
    simp [take_some last, EngineSide.allocate]

theorem Steps.release {slots : OutSlots} (steps : Steps compress s (.release slots) answer s') :
    ReleaseContract slots s s' := by
  cases steps with
  | releasesNull => exact ⟨fun _ => rfl, nofun, rfl⟩
  | releases held =>
    refine ⟨nofun, ?_, rfl⟩
    rintro _ ⟨⟩
    rfl

/-- **The functions that hand out bytes keep their contract**, after any calls from any threads. -/
theorem calls_keep_contract (compress : List UInt8 → List UInt8) (calls : List RawCall)
    (answers : List RawAnswer) (s : RawSide)
    (ran : run compress calls initial = some (answers, s)) (call : RawCall) :
    ((s.step compress call).isSome ↔ call.MayBeMade s.held) ∧
      ∀ answer s', s.step compress call = some (answer, s') →
        Contract compress (events calls answers) s call answer s' := by
  have sound := initial_sound.run ran
  rw [List.append_nil] at sound
  refine ⟨step_isSome_iff, fun answer s' stepped => ?_⟩
  have steps := step_steps stepped
  obtain ⟨places, tallies, holds⟩ := sound.steps steps
  refine ⟨?_, ?_, ?_, places, tallies, holds⟩
  · rintro thread request out rfl
    exact steps.codec sound.holds
  · rintro thread out rfl
    exact steps.take sound
  · rintro slots rfl
    exact steps.release

/-- Slots that hold something from before. -/
def staleSlots : OutMemory := ⟨some 77, some 77⟩

/-- A failure on one thread, a success on another, and on the first thread again a call without a
slot for the length and one that succeeds. -/
def staleCalls : List RawCall :=
  [.codec 7 (.decode none none 5) staleSlots,
    .codec 8 (.encode (some ⟨[0x54], by decide⟩) (some ⟨[0x30], by decide⟩)) staleSlots,
    .codec 7 (.encode none none) ⟨some 77, none⟩,
    .codec 7 (.encode (some ⟨[0x54], by decide⟩) (some ⟨[0x30], by decide⟩)) staleSlots]

/-- The first thread is given the record of its second failure, and then has none. -/
theorem calls_keep_contract_staleCalls : ∃ answers s answer s',
    run Zlib.store staleCalls initial = some (answers, s) ∧
      answers.map (·.status) = [some .invalidArgument, some .ok, some .invalidArgument, some .ok] ∧
      s.step Zlib.store (.takeLastError 7 staleSlots) = some (answer, s') ∧
      HandsOut s (Utf8.encode EngineSide.nullOutParameter.record.text) answer s' ∧
      s'.side.lastError 7 = none ∧
      Contract Zlib.store (events staleCalls answers) s (.takeLastError 7 staleSlots) answer
        s' := by
  have shown : (run Zlib.store staleCalls initial).map (fun ran =>
      (ran.1.map (·.status), ran.2.side.lastError 7)) =
    some ([some .invalidArgument, some .ok, some .invalidArgument, some .ok],
      some EngineSide.nullOutParameter.record.text) := by
    decide +kernel
  cases ran : run Zlib.store staleCalls initial with
  | none =>
    rw [ran] at shown
    cases shown
  | some state =>
    obtain ⟨answers, s⟩ := state
    rw [ran] at shown
    simp only [Option.map_some, Option.some.injEq, Prod.mk.injEq] at shown
    obtain ⟨statuses, last⟩ := shown
    obtain ⟨may, keeps⟩ := calls_keep_contract Zlib.store staleCalls answers s ran
      (.takeLastError 7 staleSlots)
    obtain ⟨⟨answer, s'⟩, stepped⟩ := Option.isSome_iff_exists.1 (may.2 nofun)
    have fresh : Sound Zlib.store [] initial := initial_sound
    have sound := fresh.run ran
    rw [List.append_nil] at sound
    have contract := keeps answer s' stepped
    have taken := (contract.take 7 staleSlots rfl).moves ⟨rfl, rfl⟩ _ ((sound.places 7 _).1 last)
    exact ⟨answers, s, answer, s', rfl, statuses, stepped, taken.1, taken.2, contract⟩

end RawSide

end EngineBridge
