import EngineBridge.Native.Recorded
import EngineBridge.Proofs.Bridge.Detail
/-!
# Codec calls, whatever the engine answers

`codec_calls_keep_contract`: what a codec call comes to, for every status and everything that a
library may leave in the slots of the result and of the detail.  The library is asked once; a null
pointer with a length is a fault; only a failure has its detail read, and once.  Every buffer that
was written and asked for is given back exactly once, after a fault too.  A frame is kept by the
caller, who gives it back.
-/

namespace EngineBridge

/-! ## Slots and calls -/

/-- The buffers that the slots hold. -/
def OutSlots.buffers : OutSlots → List Buffer
  | .written buffer => [buffer]
  | .null _ => []

/-- Slots break the rules, or what is taken from them is what they hold. -/
theorem OutSlots.take_cases (out : OutSlots) :
    (∃ length, out = .null (length + 1)) ∨
      (∀ length, out ≠ .null (length + 1)) ∧
        ∃ buffer : Option Buffer, out.take = .ok buffer ∧ out.buffers = buffer.toList := by
  match out with
  | .null (length + 1) => exact .inl ⟨length, rfl⟩
  | .null 0 => exact .inr ⟨nofun, none, rfl, rfl⟩
  | .written buffer => exact .inr ⟨nofun, some buffer, rfl, rfl⟩

namespace NativeCall

variable {thread : ThreadId} {buffers : List Buffer}

/-- The buffers that calls give back, in order. -/
def released (calls : List NativeCall) : List Buffer := calls.filterMap released?

@[simp] theorem released_nil : released [] = [] := rfl

@[simp] theorem released_codec (arguments : CodecArguments) (calls : List NativeCall) :
    released (codec thread arguments :: calls) = released calls := rfl

@[simp] theorem released_takeLastError (calls : List NativeCall) :
    released (takeLastError thread :: calls) = released calls := rfl

@[simp] theorem released_release (buffer : Buffer) (calls : List NativeCall) :
    released (release buffer :: calls) = buffer :: released calls := rfl

@[simp] theorem released_map_release : released (buffers.map release) = buffers := by
  rw [released, List.filterMap_map]
  exact List.filterMap_some

theorem follows_release : ∀ call ∈ buffers.map release, call.Follows thread := by
  rintro call mem
  obtain ⟨buffer, -, rfl⟩ := List.mem_map.1 mem
  trivial

@[simp] theorem count_map_release : (buffers.map release).count (takeLastError thread) = 0 :=
  List.count_eq_zero.2 (by simp)

end NativeCall

namespace NativeLibrary

variable {σ α β : Type} {library : NativeLibrary σ} {thread : ThreadId} {operation : String}

/-- What holds of a codec call with some arguments that comes to `result` and makes `calls`, up to
the one that gives the result back, if the library answers `reply`.  What a buffer should come to
if the status is zero is `Delivers`. -/
structure KeepsContract (thread : ThreadId) (operation : String) (arguments : CodecArguments)
    (reply : Reply) (Delivers : Buffer → Except Failure α → Prop) (result : Except Failure α)
    (calls : List NativeCall) : Prop where
  /-- The library is asked first, and once. -/
  asked : ∃ later, calls = .codec thread arguments :: later ∧ ∀ call ∈ later, call.Follows thread
  /-- A null pointer with a length is a fault, whatever the status is. -/
  broken : ∀ length, reply.out = .null (length + 1) →
    result = .error (.fault (.nullBuffer (length + 1))) ∧ calls.count (.takeLastError thread) = 0
  /-- A status other than zero has its detail read once; the detail's slots may be broken too. -/
  failed : (∀ length, reply.out ≠ .null (length + 1)) → reply.status ≠ Status.ok →
    calls.count (.takeLastError thread) = 1 ∧
      (∀ length, reply.detail = .null (length + 1) →
        result = .error (.fault (.nullBuffer (length + 1)))) ∧
      ((∀ length, reply.detail ≠ .null (length + 1)) →
        ∃ record, result = .error (.error (.nativeStatus reply.status record)))
  /-- Success without a result is a fault. -/
  missing : reply.out = .null 0 → reply.status = Status.ok →
    result = .error (.fault (.missingResult operation)) ∧ calls.count (.takeLastError thread) = 0
  /-- Success with a result delivers it. -/
  delivered : ∀ buffer, reply.out = .written buffer → reply.status = Status.ok →
    Delivers buffer result ∧ calls.count (.takeLastError thread) = 0
  /-- What was written and asked for is given back, each buffer once and nothing else. -/
  released : NativeCall.released calls =
    (if calls.count (.takeLastError thread) = 0 then [] else reply.detail.buffers) ++
      reply.out.buffers

/-! ## Reading the detail -/

theorem releaseAny_recorded (buffer : Option Buffer) (s : σ) (log : List NativeCall) :
    library.recorded.releaseAny buffer (s, log) =
      (library.releaseAny buffer s, log ++ buffer.toList.map .release) := by
  cases buffer with
  | none => simp [releaseAny]
  | some buffer => rfl

/-- What reading the detail comes to, by what its slots hold, and which calls it makes. -/
theorem readDetail_recorded (library : NativeLibrary σ) (thread : ThreadId) (s : σ)
    (log : List NativeCall) :
    ∃ read s', library.readDetail thread s = (read, s') ∧
      library.recorded.readDetail thread (s, log) = (read, s', log ++ .takeLastError thread ::
        (library.takeLastError thread s).1.buffers.map .release) ∧
      (∀ length, (library.takeLastError thread s).1 = .null (length + 1) →
        read = .error (.nullBuffer (length + 1))) ∧
      ∀ detail, (library.takeLastError thread s).1.take = .ok detail →
        read = .ok (detail.map Buffer.lossyText) := by
  rcases taken : library.takeLastError thread s with ⟨out, later⟩
  have again : library.recorded.takeLastError thread (s, log) =
      (out, later, log ++ [.takeLastError thread]) := by simp only [recorded, taken]
  simp only [readDetail, takeDetail, taken, again]
  rcases out.take_cases with ⟨length, rfl⟩ | ⟨sound, buffer, takes, holds⟩
  · refine ⟨_, _, rfl, by simp [OutSlots.take, OutSlots.buffers], fun other is => ?_, nofun⟩
    rw [← OutSlots.null.inj is]
  · rw [takes]
    refine ⟨_, _, rfl, ?_, fun length is => absurd is (sound length), fun detail is => ?_⟩
    · simp [releaseAny_recorded, holds]
    · cases is
      rfl

/-- How a call with a status other than zero fails, by what reading its detail came to. -/
def detailFailure (status : Status) : Except Violation (Option String) → Failure
  | .ok detail => .error (failureOf status detail)
  | .error violation => .fault violation

theorem checkStatus_failed {status : Status} (bad : status ≠ Status.ok)
    {readDetail : σ → Except Violation (Option String) × σ} {s s' : σ}
    {read : Except Violation (Option String)} (reads : readDetail s = (read, s')) :
    checkStatus status readDetail s = (.error (detailFailure status read), s') := by
  rw [checkStatus, if_neg bad, reads]
  cases read <;> rfl

theorem failureOf_status (status : Status) (detail : Option String) :
    ∃ record, failureOf status detail = .nativeStatus status record := by
  cases detail <;> exact ⟨_, rfl⟩

/-! ## Codec calls -/

namespace KeepsContract

variable {arguments : CodecArguments} {Delivers : Buffer → Except Failure α → Prop}

theorem of_broken (status : Status) (length : Nat) (detail : OutSlots) :
    KeepsContract thread operation arguments ⟨status, .null (length + 1), detail⟩ Delivers
      (.error (.fault (.nullBuffer (length + 1)))) [.codec thread arguments] where
  asked := ⟨[], rfl, nofun⟩
  broken other is := ⟨by rw [OutSlots.null.inj is], by simp⟩
  failed sound := absurd rfl (sound length)
  missing := nofun
  delivered := nofun
  released := by simp [OutSlots.buffers]

theorem of_failed {reply : Reply} {failure : Failure}
    (sound : ∀ length, reply.out ≠ .null (length + 1)) (bad : reply.status ≠ Status.ok)
    (detailBroken : ∀ length, reply.detail = .null (length + 1) →
      failure = .fault (.nullBuffer (length + 1)))
    (detailSound : (∀ length, reply.detail ≠ .null (length + 1)) →
      ∃ record, failure = .error (.nativeStatus reply.status record)) :
    KeepsContract thread operation arguments reply Delivers (.error failure)
      (.codec thread arguments :: .takeLastError thread ::
        (reply.detail.buffers ++ reply.out.buffers).map .release) where
  asked := ⟨_, rfl, List.forall_mem_cons.2 ⟨rfl, NativeCall.follows_release⟩⟩
  broken length is := absurd is (sound length)
  failed _ _ := ⟨by simp, fun length is => congrArg _ (detailBroken length is), fun sound =>
    (detailSound sound).imp fun _ is => congrArg _ is⟩
  missing _ good := absurd good bad
  delivered _ _ good := absurd good bad
  released := by simp [-List.map_append]

theorem of_missing (detail : OutSlots) :
    KeepsContract thread operation arguments ⟨Status.ok, .null 0, detail⟩ Delivers
      (.error (.fault (.missingResult operation))) [.codec thread arguments] where
  asked := ⟨[], rfl, nofun⟩
  broken := nofun
  failed _ bad := absurd rfl bad
  missing _ _ := ⟨rfl, by simp⟩
  delivered := nofun
  released := by simp [OutSlots.buffers]

theorem of_delivered {buffer : Buffer} {result : Except Failure α} (detail : OutSlots)
    (delivers : Delivers buffer result) :
    KeepsContract thread operation arguments ⟨Status.ok, .written buffer, detail⟩ Delivers result
      [.codec thread arguments, .release buffer] where
  asked := ⟨_, rfl, List.forall_mem_singleton.2 trivial⟩
  broken := nofun
  failed _ bad := absurd rfl bad
  missing := nofun
  delivered _ is _ := ⟨OutSlots.written.inj is ▸ delivers, by simp⟩
  released := by simp [OutSlots.buffers]

/-- What is made of the buffer makes no difference to anything else. -/
theorem bind {Delivers' : Buffer → Except Failure β → Prop} {reply : Reply}
    {result : Except Failure Buffer} {calls : List NativeCall} {use : Buffer → Except Failure β}
    (keeps : KeepsContract thread operation arguments reply
      (fun buffer result => result = .ok buffer) result calls)
    (delivers : ∀ buffer, Delivers' buffer (use buffer)) :
    KeepsContract thread operation arguments reply Delivers' (result >>= use) calls where
  asked := keeps.asked
  broken length is := (keeps.broken length is).imp_left fun is => by rw [is]; rfl
  failed sound bad := by
    obtain ⟨once, broken, whole⟩ := keeps.failed sound bad
    exact ⟨once, fun length is => by rw [broken length is]; rfl, fun sound =>
      (whole sound).imp fun _ is => by rw [is]; rfl⟩
  missing is good := (keeps.missing is good).imp_left fun is => by rw [is]; rfl
  delivered buffer is good := (keeps.delivered buffer is good).imp_left fun is => by
    rw [is]
    exact delivers buffer
  released := keeps.released

end KeepsContract

/-- What is left when the caller has given back what it got. -/
def discard (library : NativeLibrary σ) (answer : Except Failure Buffer × σ) : σ :=
  library.releaseAny answer.1.toOption answer.2

/-- **What comes after the answer to a codec call.** -/
theorem codecResult_recorded (library : NativeLibrary σ) (thread : ThreadId) (operation : String)
    (arguments : CodecArguments) (status : Status) (out : OutSlots) (s : σ)
    (log : List NativeCall) :
    ∃ result s' later, library.codecResult thread operation status out s = (result, s') ∧
      library.recorded.codecResult thread operation status out (s, log) =
        (result, s', log ++ later) ∧
      KeepsContract thread operation arguments ⟨status, out, (library.takeLastError thread s).1⟩
        (fun buffer result => result = .ok buffer) result
        (.codec thread arguments :: later ++ result.toOption.toList.map .release) := by
  by_cases good : status = Status.ok
  · subst good
    match out with
    | .written buffer =>
      exact ⟨.ok buffer, s, [], rfl, by simp [codecResult, OutSlots.take, checkStatus],
        .of_delivered _ rfl⟩
    | .null 0 =>
      exact ⟨_, s, [], rfl, by simp [codecResult, OutSlots.take, checkStatus], .of_missing _⟩
    | .null (length + 1) =>
      exact ⟨_, s, [], rfl, by simp [codecResult, OutSlots.take], .of_broken _ _ _⟩
  · rcases out.take_cases with ⟨length, rfl⟩ | ⟨sound, buffer, takes, holds⟩
    · exact ⟨_, s, [], rfl, by simp [codecResult, OutSlots.take], .of_broken _ _ _⟩
    · obtain ⟨read, later, reads, noted, broken, whole⟩ :=
        readDetail_recorded library thread s log
      refine ⟨.error (detailFailure status read), library.releaseAny buffer later,
        .takeLastError thread ::
          ((library.takeLastError thread s).1.buffers ++ out.buffers).map .release, ?_, ?_, ?_⟩
      · simp only [codecResult, takes, checkStatus_failed good reads]
      · simp only [codecResult, takes, checkStatus_failed good noted, releaseAny_recorded, holds,
          List.map_append, List.append_assoc, List.cons_append]
      · rw [Except.toOption, Option.toList_none, List.map_nil, List.append_nil]
        refine .of_failed sound good (fun length is => ?_) (fun sound => ?_)
        · rw [broken length is, detailFailure]
        · rcases (library.takeLastError thread s).1.take_cases with
            ⟨length, is⟩ | ⟨-, detail, slots, -⟩
          · exact absurd is (sound length)
          · obtain ⟨record, is⟩ := failureOf_status status (detail.map Buffer.lossyText)
            rw [whole detail slots]
            exact ⟨record, congrArg _ is⟩

/-! ## Encoding and decoding -/

variable {tag text : String} {sentTag sentText : CText}

theorem encodeRaw_recorded (library : NativeLibrary σ) (thread : ThreadId) (s : σ)
    (tagSent : toCText tag = .ok sentTag) (textSent : toCText text = .ok sentText) :
    ∃ calls,
      (library.recorded.encodeRaw thread tag text (s, [])).1 =
        (library.encodeRaw thread tag text s).1 ∧
      library.recorded.discard (library.recorded.encodeRaw thread tag text (s, [])) =
        (library.discard (library.encodeRaw thread tag text s), calls) ∧
      KeepsContract thread "encode" (.encode sentTag sentText)
        (library.reply thread (.encode sentTag sentText) s)
        (fun buffer result => result = .ok buffer) (library.encodeRaw thread tag text s).1
        calls := by
  rcases answered : library.encode thread sentTag sentText s with ⟨⟨status, out⟩, s'⟩
  obtain ⟨result, s'', later, is, noted, keeps⟩ := codecResult_recorded library thread "encode"
    (.encode sentTag sentText) status out s' [.codec thread (.encode sentTag sentText)]
  have asked : library.recorded.encode thread sentTag sentText (s, []) =
      ((status, out), s', [.codec thread (.encode sentTag sentText)]) := by
    simp only [recorded, answered, List.nil_append]
  simp only [encodeRaw, tagSent, textSent, answered, asked, is, noted, reply, discard,
    releaseAny_recorded]
  exact ⟨_, trivial, rfl, keeps⟩

end NativeLibrary

/-- What a text is read from a buffer: the one of which it holds the bytes, if there is one. -/
def Buffer.ReadsAs (buffer : Buffer) (result : Except Failure String) : Prop :=
  (∀ text, buffer.bytes = Utf8.encode text → result = .ok text) ∧
    ((∀ text, buffer.bytes ≠ Utf8.encode text) →
      ∃ reason, result = .error (.error (.invalidText reason)))

theorem Buffer.readsAs_decode (buffer : Buffer) :
    buffer.ReadsAs (buffer.decode.mapError .error) := by
  rw [Buffer.decode]
  constructor
  · rintro text is
    rw [is, Utf8.decode_encode]
    rfl
  · rintro noText
    cases decoded : Utf8.decode buffer.bytes with
    | ok text => exact absurd (Utf8.decode_ok_iff.1 decoded) (noText text)
    | error fault => exact ⟨_, rfl⟩

namespace NativeLibrary

theorem decodeRaw_recorded (library : NativeLibrary σ) (thread : ThreadId) (bytes : List UInt8)
    (s : σ) (tagSent : toCText tag = .ok sentTag) :
    ∃ calls,
      library.recorded.decodeRaw thread tag bytes (s, []) =
        ((library.decodeRaw thread tag bytes s).1, (library.decodeRaw thread tag bytes s).2,
          calls) ∧
      KeepsContract thread "decode" (.decode sentTag bytes)
        (library.reply thread (.decode sentTag bytes) s) Buffer.ReadsAs
        (library.decodeRaw thread tag bytes s).1 calls := by
  rcases answered : library.decode thread sentTag bytes s with ⟨⟨status, out⟩, s'⟩
  obtain ⟨result, s'', later, is, noted, keeps⟩ := codecResult_recorded library thread "decode"
    (.decode sentTag bytes) status out s' [.codec thread (.decode sentTag bytes)]
  have asked : library.recorded.decode thread sentTag bytes (s, []) =
      ((status, out), s', [.codec thread (.decode sentTag bytes)]) := by
    simp only [recorded, answered, List.nil_append]
  have keeps := keeps.bind Buffer.readsAs_decode
  simp only [decodeRaw, tagSent, answered, asked, is, noted, reply]
  cases result with
  | ok buffer => exact ⟨_, rfl, keeps⟩
  | error failure =>
    rw [Except.toOption, Option.toList_none, List.map_nil, List.append_nil] at keeps
    exact ⟨_, rfl, keeps⟩

/-- **Codec calls keep their contract with any engine**, well-behaved or not. -/
theorem codec_calls_keep_contract (library : NativeLibrary σ) (thread : ThreadId)
    (tag text : String) (tagPlain : '\x00' ∉ tag.toList) (textPlain : '\x00' ∉ text.toList)
    (bytes : List UInt8) (s : σ) :
    ∃ sentTag sentText, toCText tag = .ok sentTag ∧ toCText text = .ok sentText ∧
      (∃ calls,
        (library.recorded.encodeRaw thread tag text (s, [])).1 =
          (library.encodeRaw thread tag text s).1 ∧
        library.recorded.discard (library.recorded.encodeRaw thread tag text (s, [])) =
          (library.discard (library.encodeRaw thread tag text s), calls) ∧
        KeepsContract thread "encode" (.encode sentTag sentText)
          (library.reply thread (.encode sentTag sentText) s)
          (fun buffer result => result = .ok buffer) (library.encodeRaw thread tag text s).1
          calls) ∧
      ∃ calls,
        library.recorded.decodeRaw thread tag bytes (s, []) =
          ((library.decodeRaw thread tag bytes s).1, (library.decodeRaw thread tag bytes s).2,
            calls) ∧
        KeepsContract thread "decode" (.decode sentTag bytes)
          (library.reply thread (.decode sentTag bytes) s) Buffer.ReadsAs
          (library.decodeRaw thread tag bytes s).1 calls := by
  obtain ⟨sentTag, tagSent⟩ := toCText_ok tagPlain
  obtain ⟨sentText, textSent⟩ := toCText_ok textPlain
  exact ⟨sentTag, sentText, tagSent, textSent,
    encodeRaw_recorded library thread s tagSent textSent,
    decodeRaw_recorded library thread bytes s tagSent⟩

end NativeLibrary

/-- A library that fails with a result, and with a detail that breaks the rules. -/
def Script.brokenDetail : Script :=
  { Script.empty with status := 7, out := .bytes [255], detail := .null 3 }

/-- The fault of the detail comes while the result is there, which is given back all the same. -/
theorem NativeLibrary.codec_calls_keep_contract_brokenDetail :
    (Script.library.encodeRaw 0 "T" "\x7b\x7d" Script.brokenDetail).1 =
        .error (.fault (.nullBuffer 3)) ∧
      NativeCall.released (Script.library.recorded.discard
          (Script.library.recorded.encodeRaw 0 "T" "\x7b\x7d" (Script.brokenDetail, []))).2 =
        [⟨1, [255]⟩] := by
  obtain ⟨sentTag, sentText, -, -, ⟨calls, -, made, keeps⟩, -⟩ :=
    NativeLibrary.codec_calls_keep_contract Script.library 0 "T" "\x7b\x7d" (by decide) (by decide)
      [] Script.brokenDetail
  have answered : Script.library.reply 0 (.encode sentTag sentText) Script.brokenDetail =
      ⟨7, .written ⟨1, [255]⟩, .null 3⟩ := rfl
  rw [answered] at keeps
  obtain ⟨once, broken, -⟩ := keeps.failed nofun (by decide)
  refine ⟨broken 2 rfl, ?_⟩
  rw [made, keeps.released, once]
  rfl

end EngineBridge
