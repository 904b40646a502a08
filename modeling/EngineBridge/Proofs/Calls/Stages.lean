import EngineBridge.Proofs.Calls.Steps
/-!
# Stages in a row

A callback that nobody comes between is `complete`, and a codec call that nobody comes between
is `encodeRaw` or `decodeRaw`: the stages say where others may come between, and nothing else.
-/

namespace EngineBridge

variable {σ : Type}

namespace Exchange

/-- The outcome of a callback is the one that it reads, and the detail's buffer is given back. -/
theorem classify_eq (library : NativeLibrary σ) (callback : Callback) (s : σ) :
    classify library callback s =
      match library.readReport callback s with
      | (.error violation, s) => (.error violation, s)
      | (.ok (buffer, outcome), s) => (.ok outcome, library.releaseAny buffer s) := by
  unfold classify checkStatus NativeLibrary.readReport NativeLibrary.readDetail
  by_cases success : callback.status = Status.ok
  · rw [if_pos success, if_pos success]
    cases callback.response <;> rfl
  · rw [if_neg success, if_neg success]
    rcases library.takeDetail callback.thread s with ⟨violation | buffer, s'⟩ <;> rfl

/-- **All stages of a callback in a row** are the callback. -/
theorem advanceMany_eq_complete (libraries : BridgeId → NativeLibrary σ) (callback : Callback)
    (x : Exchange σ) :
    advanceMany libraries callback 9 (some .looking, x.enter callback.context)
      = (x.complete libraries callback).map fun x' => (none, x') := by
  unfold complete
  cases found : (x.enter callback.context).lookUp callback.context with
  | error violation => simp only [advanceMany, advance, found, Except.map]
  | ok state =>
    obtain ⟨bridge, y⟩ := state
    cases read : (libraries bridge).readReport callback y.native with
    | mk report native =>
      cases report with
      | error violation => simp only [advanceMany, advance, found, classify_eq, read, Except.map]
      | ok report =>
        obtain ⟨buffer, outcome⟩ := report
        simp only [advanceMany, advance, found, classify_eq, read, resume_eq]
        cases Exchange.takeSlot callback.context _ <;> rfl

end Exchange

namespace NativeLibrary

variable (library : NativeLibrary σ) (thread : ThreadId)

/-- The stages of a call that the engine has answered are the reading of its answer. -/
theorem settleCodec_eq (call : CodecCall) (status : Status) (out : OutSlots) (s : σ) :
    library.advanceCodecMany thread call 3 (.answered status out, s)
      = match library.codecResult thread call.operation status out s with
        | (.error failure, s) => (.freeing [] (.error failure), s)
        | (.ok buffer, s) => library.advanceCodecMany thread call 2 (call.success buffer, s) := by
  simp only [advanceCodecMany, advanceCodec, settleCodec, codecResult, checkStatus, readDetail]
  cases out.take with
  | error violation => rfl
  | ok buffer =>
    by_cases success : status = Status.ok
    · simp only [if_pos success]
      cases buffer <;> rfl
    · simp only [if_neg success]
      cases library.takeDetail thread s with
      | mk detail s' =>
        cases detail with
        | error violation => cases buffer <;> rfl
        | ok detail => cases detail <;> cases buffer <;> rfl

/-- **All stages of an encoding call in a row** are the call. -/
theorem advanceCodecMany_eq_encodeRaw (tag text : String) (s : σ) :
    library.advanceCodecMany thread (.encode tag text) 3
        (library.beginCodec thread (.encode tag text) s)
      = (.freeing [] ((library.encodeRaw thread tag text s).1.map .frame),
        (library.encodeRaw thread tag text s).2) := by
  simp only [beginCodec, encodeRaw]
  cases toCText tag with
  | error refusal => rfl
  | ok tag =>
    cases toCText text with
    | error refusal => rfl
    | ok text =>
      simp only [settleCodec_eq, CodecCall.operation]
      cases library.codecResult thread "encode" _ _ _ with
      | mk result s' => cases result <;> rfl

/-- **All stages of a decoding call in a row** are the call. -/
theorem advanceCodecMany_eq_decodeRaw (tag : String) (bytes : List UInt8) (s : σ) :
    library.advanceCodecMany thread (.decode tag bytes) 3
        (library.beginCodec thread (.decode tag bytes) s)
      = (.freeing [] ((library.decodeRaw thread tag bytes s).1.map .text),
        (library.decodeRaw thread tag bytes s).2) := by
  simp only [beginCodec, decodeRaw]
  cases toCText tag with
  | error refusal => rfl
  | ok tag =>
    simp only [settleCodec_eq, CodecCall.operation]
    cases library.codecResult thread "decode" _ _ _ with
    | mk result s' =>
      cases result with
      | error failure => rfl
      | ok buffer =>
        simp only [CodecCall.success, advanceCodecMany, advanceCodec]
        cases buffer.decode <;> rfl

end NativeLibrary

end EngineBridge
