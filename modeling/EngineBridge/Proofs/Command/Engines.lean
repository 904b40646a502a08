import EngineBridge.Command.Run
import EngineBridge.Proofs.Calls.Alone
import EngineBridge.Proofs.Native.Codec
import EngineBridge.Proofs.Native.Texts
/-!
# What an opened engine answers

A command asks an engine for a response, a frame or a text.  `Answers`, `Encodes` and `Decodes` say
when it gets one, for any engine in terms of the calls of its library, and for the built-in one in
terms of its operations and its frames.
-/

namespace EngineBridge

namespace NativeLibrary

variable {σ : Type} {library : NativeLibrary σ} {thread : ThreadId} {s : σ}

/-- A codec call succeeds if its status says so and there is a buffer. -/
theorem codecResult_ok_iff {operation : String} {status : Status} {out : OutSlots}
    {buffer : Buffer} :
    (library.codecResult thread operation status out s).1 = .ok buffer ↔
      status = Status.ok ∧ out.take = .ok (some buffer) := by
  unfold codecResult
  cases taken : out.take with
  | error violation => simp
  | ok held =>
    simp only [Except.ok.injEq]
    by_cases success : status = Status.ok
    · simp only [checkStatus, success, if_true, true_and]
      cases held with
      | none => simp
      | some held => simp
    · rcases read : library.readDetail thread s with ⟨detail, s'⟩
      cases detail with
      | error violation => simp [checkStatus, success, read]
      | ok detail => simp [checkStatus, success, read]

end NativeLibrary

/-- A callback brings a response exactly if it reports success and its response is a text. -/
theorem Exchange.classify_ok_iff {σ : Type} {library : NativeLibrary σ} {callback : Callback} {s : σ}
    {response : String} :
    (classify library callback s).1 = .ok (.ok response) ↔
      callback.status = Status.ok ∧
        ∃ given, callback.response = some given ∧ given.decode = .ok response := by
  rw [classify_eq]
  unfold NativeLibrary.readReport
  by_cases success : callback.status = Status.ok
  · cases brought : callback.response with
    | none => simp [success]
    | some given => cases read : given.decode <;> simp [success, readCText, read]
  · rcases library.takeDetail callback.thread s with ⟨violation | buffer, s'⟩ <;> simp [success]

namespace Command.OpenEngine

/-! ## Any engine -/

/-- The engine answers a request with a response, within a limit in milliseconds if there is one: the
request holds no nul, and the first callback that the engine makes comes in time, is for this
request, and reports success with the response. -/
inductive Answers (engine : OpenEngine) (request : String) (limit : Option Nat) : String → Prop where
  | intro {text given : CText} {callback : Callback} {host : Host} {response : String}
    (sent : toCText request = .ok text)
    (calls : engine.functions.FirstCallback text engine.host (limit.map (engine.host.clock + ·))
      callback host)
    (ours : callback.context = firstToken) (succeeds : callback.status = Status.ok)
    (brings : callback.response = some given) (read : given.decode = .ok response) :
    Answers engine request limit response

/-- The engine takes a request and never calls back: it has not done so when its call returns, and
has nothing to do then. -/
def Ignores (engine : OpenEngine) (request : String) : Prop :=
  ∃ text host, toCText request = .ok text ∧
    engine.functions.execute firstToken text engine.host = ([], host) ∧ host.jobs = []

/-- The engine encodes a text under a tag into a frame: neither holds a nul, and the call
succeeds with the frame in a buffer. -/
inductive Encodes (engine : OpenEngine) (tag text : String) : List UInt8 → Prop where
  | intro {sentTag sentText : CText} {out : OutSlots} {host : Host} {buffer : Buffer}
    (tagSent : toCText tag = .ok sentTag) (textSent : toCText text = .ok sentText)
    (succeeds : engine.functions.encode 0 sentTag sentText engine.host =
      ((Status.ok, out), host))
    (taken : out.take = .ok (some buffer)) : Encodes engine tag text buffer.bytes

/-- The engine decodes bytes under a tag into a text: the tag holds no nul, and the call succeeds
with the text in a buffer. -/
inductive Decodes (engine : OpenEngine) (tag : String) (bytes : List UInt8) : String → Prop where
  | intro {sentTag : CText} {out : OutSlots} {host : Host} {buffer : Buffer} {text : String}
    (tagSent : toCText tag = .ok sentTag)
    (succeeds : engine.functions.decode 0 sentTag bytes engine.host = ((Status.ok, out), host))
    (taken : out.take = .ok (some buffer)) (read : buffer.decode = .ok text) :
    Decodes engine tag bytes text

variable {engine : OpenEngine} {tag text request response what : String} {frame bytes : List UInt8}
  {limit : Option Nat}

theorem answers_iff : engine.Answers request limit response ↔
    Exchange.ComesTo engine.functions engine.host request limit (.ok response) := by
  constructor
  · rintro ⟨sent, calls, ours, succeeds, brings, read⟩
    exact .told sent calls ours (Exchange.classify_ok_iff.2 ⟨succeeds, _, brings, read⟩)
  · intro comes
    cases comes with
    | told sent calls ours tells =>
      obtain ⟨succeeds, given, brings, read⟩ := Exchange.classify_ok_iff.1 tells
      exact .intro sent calls ours succeeds brings read

theorem awaitedResponse_ok_iff {came : Exchange.Awaited (Outcome × Exchange Host)} :
    awaitedResponse came = .ok response ↔ ∃ x, came = pure (.ok response, x) := by
  unfold awaitedResponse
  rcases came with _ | violation | ⟨refusal | answer, x⟩
  · exact iff_of_false nofun nofun
  · exact iff_of_false nofun nofun
  · exact iff_of_false nofun nofun
  · constructor
    · rintro ⟨⟩
      exact ⟨x, rfl⟩
    · rintro ⟨x, ⟨⟩⟩
      rfl

theorem awaitedResponse_standstill_iff {came : Exchange.Awaited (Outcome × Exchange Host)} :
    awaitedResponse came = .error .standstill ↔ came.run = none := by
  unfold awaitedResponse
  rcases came with _ | violation | ⟨refusal | answer, x⟩
  · exact iff_of_true rfl rfl
  · exact iff_of_false nofun nofun
  · exact iff_of_false nofun nofun
  · exact iff_of_false nofun nofun

theorem execute_ok_iff : execute engine request limit = .ok response ↔
    engine.Answers request limit response := by
  rw [answers_iff, execute, awaitedResponse_ok_iff]
  exact Exchange.execute_ok_iff (fun _ => engine.functions) _ _ _ _ _ _

/-- A request waits for ever exactly if it has no limit and the engine ignores it. -/
theorem execute_standstill_iff : execute engine request limit = .error .standstill ↔
    limit = none ∧ engine.Ignores request := by
  rw [execute, awaitedResponse_standstill_iff]
  exact Exchange.execute_eq_none_iff (fun _ => engine.functions) _ _ _ _ _

theorem doing_ok_iff {α : Type} {result : Except Failure α} {value : α} :
    doing what result = .ok value ↔ result = .ok value := by
  rcases result with (error | violation) | value
  · simp [doing, stopWith]
  · simp [doing]
  · simp [doing]

theorem encodes_iff : engine.Encodes tag text frame ↔
    ∃ buffer, (engine.functions.encodeRaw 0 tag text engine.host).1 = .ok buffer ∧
      buffer.bytes = frame := by
  constructor
  · rintro ⟨tagSent, textSent, succeeds, taken⟩
    refine ⟨_, ?_, rfl⟩
    simp only [NativeLibrary.encodeRaw, tagSent, textSent, succeeds]
    exact NativeLibrary.codecResult_ok_iff.2 ⟨rfl, taken⟩
  · rintro ⟨buffer, encoded, rfl⟩
    unfold NativeLibrary.encodeRaw at encoded
    cases tagSent : toCText tag with
    | error refusal => simp [tagSent] at encoded
    | ok sentTag =>
      cases textSent : toCText text with
      | error refusal => simp [tagSent, textSent] at encoded
      | ok sentText =>
        simp only [tagSent, textSent] at encoded
        obtain ⟨success, taken⟩ := NativeLibrary.codecResult_ok_iff.1 encoded
        exact .intro tagSent textSent (Prod.ext (Prod.ext success rfl) rfl) taken

theorem decodes_iff : engine.Decodes tag bytes text ↔
    (engine.functions.decodeRaw 0 tag bytes engine.host).1 = .ok text := by
  constructor
  · intro decodes
    cases decodes with
    | @intro sentTag out host buffer _ tagSent succeeds taken read =>
      have given : (engine.functions.codecResult 0 "decode" Status.ok out host).1 = .ok buffer :=
        NativeLibrary.codecResult_ok_iff.2 ⟨rfl, taken⟩
      unfold NativeLibrary.decodeRaw
      simp only [tagSent, succeeds]
      split
      · rename_i answered
        rw [answered] at given
        cases given
      · rename_i answered
        rw [answered] at given
        rw [Except.ok.inj given, read, mapError_ok]
  · intro decoded
    unfold NativeLibrary.decodeRaw at decoded
    cases tagSent : toCText tag with
    | error refusal => simp [tagSent] at decoded
    | ok sentTag =>
      simp only [tagSent] at decoded
      split at decoded
      · cases decoded
      · rename_i buffer s answered
        obtain ⟨success, taken⟩ := NativeLibrary.codecResult_ok_iff.1 (congrArg Prod.fst answered)
        exact .intro tagSent (Prod.ext (Prod.ext success rfl) rfl) taken (mapError_ok_iff.1 decoded)

/-! ## The built-in engine -/

/-- An engine at work that has done nothing yet. -/
def fresh (engine : Engine) : OpenEngine :=
  ⟨Host.library, .owned Host.engineAddress, Host.start engine⟩

variable {atWork : Engine}

/-- It answers what its operation answers, if the request holds no nul and its operation takes no
longer than the limit. -/
theorem fresh_answers_iff : (fresh atWork).Answers request limit response ↔
    (∃ sent, toCText request = .ok sent) ∧ (∀ ms ∈ limit, atWork.milliseconds request ≤ ms) ∧
      atWork.dispatch request = .ok response := by
  obtain ⟨x, comes⟩ := Exchange.execute_alone atWork (fun _ => .owned Host.engineAddress) 0 request
    limit
  have answers : (fresh atWork).Answers request limit response ↔
      atWork.answerWithin limit request = .ok response := by
    rw [← execute_ok_iff, execute, fresh, comes, awaitedResponse_ok_iff]
    generalize atWork.answerWithin limit request = outcome
    constructor
    · rintro ⟨x', ⟨⟩⟩
      rfl
    · rintro rfl
      exact ⟨x, rfl⟩
  rw [answers]
  unfold Engine.answerWithin
  cases sent : toCText request with
  | error refusal => simp
  | ok text =>
    cases limit with
    | none => simp [Engine.outcome, mapError_ok_iff]
    | some ms =>
      by_cases late : ms < atWork.milliseconds request
      · simp [late, Nat.not_le.2 late]
      · simp [late, Engine.outcome, mapError_ok_iff, Nat.le_of_not_lt late]

theorem not_fresh_ignores : ¬ (fresh atWork).Ignores request := by
  rintro ⟨text, host, sent, accepts, idle⟩
  obtain ⟨worker, jobs, -⟩ := Host.submit_start atWork firstToken request
  have submitted := Host.execute_eq sent firstToken (Host.start atWork)
  obtain ⟨-, rfl⟩ := Prod.mk.inj (submitted.symm.trans accepts)
  rw [jobs] at idle
  cases idle

/-- It encodes a text into its frame, if there is one. -/
theorem fresh_encodes_iff : (fresh atWork).Encodes tag text frame ↔
    (∃ sent, toCText tag = .ok sent) ∧ (∃ sent, toCText text = .ok sent) ∧
      Frame.encode tag text = .ok frame := by
  constructor
  · rintro ⟨tagSent, textSent, succeeds, taken⟩
    refine ⟨⟨_, tagSent⟩, ⟨_, textSent⟩, ?_⟩
    have made : EngineSide.encoding (some _) (some _) = Frame.encode tag text :=
      Host.encodingWith_eq tagSent textSent
    cases result : Frame.encode tag text with
    | error error =>
      rw [result] at made
      simp [fresh, Host.library, Host.onSide, EngineSide.deliver, made, error.status_ne_ok]
        at succeeds
    | ok bytes =>
      rw [result] at made
      simp only [fresh, Host.library, Host.onSide, EngineSide.deliver, made, EngineSide.allocate,
        Prod.mk.injEq, true_and] at succeeds
      rw [← succeeds.1] at taken
      cases taken
      rfl
  · rintro ⟨⟨sentTag, tagSent⟩, ⟨sentText, textSent⟩, result⟩
    obtain ⟨address, host, encoded⟩ :=
      Host.encodeRaw_ok 0 (fresh atWork).host tagSent textSent result
    exact encodes_iff.2 ⟨_, congrArg Prod.fst encoded, rfl⟩

/-- It decodes the frames of a tag, and nothing else. -/
theorem fresh_decodes_iff : (fresh atWork).Decodes tag bytes text ↔
    (∃ sent, toCText tag = .ok sent) ∧ Frame.decode tag bytes = .ok text := by
  rw [decodes_iff]
  constructor
  · intro decoded
    cases sent : toCText tag with
    | error refusal => simp [fresh, NativeLibrary.decodeRaw, sent] at decoded
    | ok sentTag =>
      refine ⟨⟨sentTag, rfl⟩, ?_⟩
      cases result : Frame.decode tag bytes with
      | ok text' =>
        obtain ⟨host, answered, -⟩ := Host.decodeRaw_ok Zlib.store 0 (fresh atWork).host sent result
        have answered : (fresh atWork).functions.decodeRaw 0 tag bytes (fresh atWork).host = _ :=
          answered
        rw [answered] at decoded
        rw [Except.ok.inj decoded]
      | error error =>
        obtain ⟨host, answered, -⟩ :=
          Host.decodeRaw_error Zlib.store 0 (fresh atWork).host sent result
        have answered : (fresh atWork).functions.decodeRaw 0 tag bytes (fresh atWork).host = _ :=
          answered
        rw [answered] at decoded
        cases decoded
  · rintro ⟨⟨sentTag, sent⟩, result⟩
    obtain ⟨host, answered, -⟩ := Host.decodeRaw_ok Zlib.store 0 (fresh atWork).host sent result
    exact congrArg Prod.fst answered

end Command.OpenEngine

end EngineBridge
