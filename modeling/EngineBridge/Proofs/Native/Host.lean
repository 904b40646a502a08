import EngineBridge.Calls.Stages
import EngineBridge.Native.Host
import EngineBridge.Proofs.Bridge.Detail
/-!
# What an engine at work tells

A failure's detail travels outside of the call: the engine keeps it as the last error of the
thread, and the bridge takes it there later.  `told` is what will be read if nobody gets in
between, and every function of the engine's library is shown to leave the places of other
threads alone (`Steady`), to tell the right thing at its end (`finishOn_told`,
`beginCodec_told`), or to read what was told (`readReport_told`, `advanceCodec_told`).
-/

namespace EngineBridge

/-! ## What is told -/

/-- What a callback reports, once its detail is read. -/
def Callback.told (callback : Callback) (side : EngineSide) : Outcome :=
  match callback.response with
  | some response => readCText response
  | none => .error (failureOf callback.status (side.lastError callback.thread))

/-- A callback has a response exactly when it reports success. -/
def Callback.IsProper (callback : Callback) : Prop :=
  callback.status = Status.ok ↔ callback.response.isSome

namespace CodecCall

/-- The result that is made of the buffer of a successful call. -/
def read (call : CodecCall) (buffer : Buffer) : CodecResult :=
  match call with
  | encode .. => .ok (.frame buffer)
  | decode .. => (buffer.decode.map CodecAnswer.text).mapError Failure.error

/-- What a codec call comes to from a stage on. -/
def told (call : CodecCall) (thread : ThreadId) (side : EngineSide) : CodecStage → CodecResult
  | .answered status out =>
    match out.take with
    | .error violation => .error (.fault violation)
    | .ok buffer =>
      if status = Status.ok then
        match buffer with
        | some buffer => call.read buffer
        | none => .error (.fault (.missingResult call.operation))
      else .error (.error (failureOf status (side.lastError thread)))
  | .freeing _ result => result

/-- Whether a result is that of the call itself: the frame or the text that it asks for, the
failure that it raised, or the refusal of a text with a nul. -/
def Answers (call : CodecCall) (result : CodecResult) : Prop :=
  match call with
  | encode tag text =>
    match toCText tag, toCText text with
    | .error refusal, _ => result = .error (.error refusal)
    | .ok _, .error refusal => result = .error (.error refusal)
    | .ok _, .ok _ =>
      match Frame.encode tag text with
      | .ok bytes => ∃ address, result = .ok (.frame ⟨address, bytes⟩)
      | .error error => result = .error (.error error.toBridge)
  | decode tag bytes =>
    match toCText tag with
    | .error refusal => result = .error (.error refusal)
    | .ok _ =>
      match Frame.decode tag bytes with
      | .ok text => result = .ok (.text text)
      | .error error => result = .error (.error error.toBridge)

theorem success_eq (call : CodecCall) (buffer : Buffer) :
    ∃ buffers, call.success buffer = .freeing buffers (call.read buffer) := by
  cases call <;> exact ⟨_, rfl⟩

end CodecCall

namespace EngineSide

variable {thread : ThreadId} {s : EngineSide}

@[simp] theorem record_lastError (error : EngineError) :
    (s.record thread error).lastError thread = some error.record.text := by
  simp [record]

theorem record_lastError_of_ne {t : ThreadId} (error : EngineError) (other : t ≠ thread) :
    (s.record thread error).lastError t = s.lastError t := by
  simp [record, other]

/-- Taking the last error: the bytes of its text, if there is one. -/
theorem takeLastError_both (thread : ThreadId) (s : EngineSide) :
    ∃ buffer : Option Buffer,
      (∃ out, (s.takeLastError thread .both).1 = some out ∧ out.take = .ok buffer) ∧
      buffer.map Buffer.lossyText = s.lastError thread ∧
      ∀ t, t ≠ thread → (s.takeLastError thread .both).2.lastError t = s.lastError t := by
  cases last : s.lastError thread with
  | none =>
    refine ⟨none, ⟨.untouched, ?_, rfl⟩, rfl, fun t other => ?_⟩
    · simp [takeLastError, OutParameters.both, OutParameters.isIncomplete, take, last]
    · simp [takeLastError, OutParameters.both, OutParameters.isIncomplete, take, last]
  | some text =>
    refine ⟨some ⟨s.nextAddress, Utf8.encode text⟩, ⟨.written ⟨s.nextAddress, Utf8.encode text⟩,
      ?_, rfl⟩, ?_, fun t other => ?_⟩
    · simp [takeLastError, OutParameters.both, OutParameters.isIncomplete, take, last, allocate]
    · simp [Buffer.lossyText]
    · simp [takeLastError, OutParameters.both, OutParameters.isIncomplete, take, last, allocate,
        other]

end EngineSide

namespace Host

/-- A thread has acted: the engine, its jobs and what other threads would read stay. -/
structure Steady (thread : ThreadId) (host host' : Host) : Prop where
  engine : host'.engine = host.engine
  jobs : host'.jobs = host.jobs
  others : ∀ t, t ≠ thread → host'.side.lastError t = host.side.lastError t

variable {thread : ThreadId} {host host' : Host}

theorem Steady.refl (thread : ThreadId) (host : Host) : Steady thread host host :=
  ⟨rfl, rfl, fun _ _ => rfl⟩

theorem Steady.told {callback : Callback} (h : Steady thread host host')
    (other : callback.thread ≠ thread) : callback.told host'.side = callback.told host.side := by
  rw [Callback.told, h.others _ other]
  rfl

/-! ## Requests -/

/-- A request that was sent is put to work, and nothing is called back at once. -/
theorem execute_eq {request : String} {sent : CText} (h : toCText request = .ok sent)
    (token : Token) (host : Host) :
    library.execute token sent host = ([], host.submit token request) := by
  have submission : EngineSide.submission (some host.engine) (some sent)
      = .ok (host.engine, request) := by
    simp only [EngineSide.submission, EngineSide.textArgument, decode_toCText h]
  simp only [library, submission]

theorem submit_jobs (token : Token) (request : String) (host : Host) :
    ∃ worker due, (host.submit token request).jobs
      = host.jobs ++ [⟨token, request, worker, due⟩] := ⟨_, _, rfl⟩

/-- A job that is finished tells what its request comes to, on the thread that finished it. -/
theorem finishOn_told (thread : ThreadId) (job : Job) (host : Host) :
    (host.finishOn thread job).1.thread = thread ∧
      (host.finishOn thread job).1.context = job.context ∧
      (host.finishOn thread job).1.IsProper ∧
      (host.finishOn thread job).1.told (host.finishOn thread job).2.side
        = host.engine.outcome job.request ∧
      (host.finishOn thread job).2.engine = host.engine ∧
      (host.finishOn thread job).2.jobs = host.jobs.erase job ∧
      ∀ t, t ≠ thread →
        (host.finishOn thread job).2.side.lastError t = host.side.lastError t := by
  simp only [finishOn]
  cases result : host.engine.dispatch job.request with
  | ok text =>
    obtain ⟨value, rfl⟩ := Engine.dispatch_text result
    obtain ⟨response, handed, read⟩ := EngineSide.responseOf_text value
    simp only [EngineSide.complete, handed]
    refine ⟨trivial, trivial, ?_, ?_, trivial, trivial, fun _ _ => trivial⟩
    · simp [Callback.IsProper, Status.ok]
    · simp only [Callback.told, read, Engine.outcome, result, mapError_ok]
  | error error =>
    simp only [EngineSide.complete, EngineSide.responseOf]
    refine ⟨trivial, trivial, ?_, ?_, trivial, trivial, fun t other => ?_⟩
    · simp [Callback.IsProper, error.status_ne_ok]
    · simp only [Callback.told, EngineSide.record_lastError, failureOf_record, Engine.outcome,
        result, mapError_error]
    · exact EngineSide.record_lastError_of_ne error other

/-! ## Details and buffers -/

/-- Taking the detail of a thread: its text is the thread's last error. -/
theorem takeDetail_ok (thread : ThreadId) (host : Host) :
    ∃ buffer host', library.takeDetail thread host = (.ok buffer, host') ∧
      buffer.map Buffer.lossyText = host.side.lastError thread ∧ Steady thread host host' := by
  obtain ⟨buffer, ⟨out, is, taken⟩, text, others⟩ := EngineSide.takeLastError_both thread host.side
  refine ⟨buffer, { host with side := (host.side.takeLastError thread .both).2 }, ?_, text,
    rfl, rfl, others⟩
  simp only [NativeLibrary.takeDetail, library, onSide, is, Option.getD_some, taken]

theorem release_steady (thread : ThreadId) (buffer : Buffer) (host : Host) :
    Steady thread host (library.release buffer host) := ⟨rfl, rfl, fun _ _ => rfl⟩

theorem releaseAny_steady (thread : ThreadId) (buffer : Option Buffer) (host : Host) :
    Steady thread host (library.releaseAny buffer host) := by
  cases buffer with
  | none => exact .refl thread host
  | some buffer => exact release_steady thread buffer host

theorem readReport_told {callback : Callback} (proper : callback.IsProper) (host : Host) :
    ∃ buffer host', library.readReport callback host
        = (.ok (buffer, callback.told host.side), host') ∧
      Steady callback.thread host host' := by
  unfold NativeLibrary.readReport
  cases response : callback.response with
  | some response' =>
    have success : callback.status = Status.ok := proper.2 (by rw [response]; rfl)
    rw [if_pos success]
    exact ⟨none, host, by simp only [Callback.told, response], .refl _ host⟩
  | none =>
    have failure : callback.status ≠ Status.ok := fun success => by
      have := proper.1 success
      simp [response] at this
    obtain ⟨buffer, host', taken, text, steady⟩ := takeDetail_ok callback.thread host
    rw [if_neg failure, taken]
    exact ⟨buffer, host', by simp only [Callback.told, response, text], steady⟩

/-! ## Codec calls -/

/-- Ending a call that makes bytes: they are handed out, or the failure is recorded. -/
theorem deliver_told (thread : ThreadId) (call : CodecCall)
    (result : Except EngineError (List UInt8)) (side : EngineSide) :
    (match result with
      | .ok bytes => ∃ address, call.told thread (side.deliver thread result).2
          (.answered (side.deliver thread result).1.1 (side.deliver thread result).1.2)
            = call.read ⟨address, bytes⟩
      | .error error => call.told thread (side.deliver thread result).2
          (.answered (side.deliver thread result).1.1 (side.deliver thread result).1.2)
            = .error (.error error.toBridge)) ∧
    ∀ t, t ≠ thread → (side.deliver thread result).2.lastError t = side.lastError t := by
  cases result with
  | ok bytes =>
    refine ⟨⟨side.nextAddress, ?_⟩, fun t other => rfl⟩
    simp only [EngineSide.deliver, EngineSide.allocate, CodecCall.told, OutSlots.take, if_true]
  | error error =>
    refine ⟨?_, fun t other => EngineSide.record_lastError_of_ne error other⟩
    simp only [EngineSide.deliver, CodecCall.told, OutSlots.take, OutSlots.untouched,
      if_neg error.status_ne_ok, EngineSide.record_lastError, failureOf_record]

theorem encoding_eq {tag text : String} {sentTag sentText : CText}
    (tagSent : toCText tag = .ok sentTag) (textSent : toCText text = .ok sentText) :
    EngineSide.encoding (some sentTag) (some sentText) = Frame.encode tag text := by
  simp only [EngineSide.encoding, EngineSide.requiredText, EngineSide.textArgument,
    decode_toCText tagSent, decode_toCText textSent, bind, Except.bind]

theorem decoding_eq {tag : String} {sentTag : CText} (tagSent : toCText tag = .ok sentTag)
    (bytes : List UInt8) :
    EngineSide.decoding (some sentTag) (some bytes) bytes.length
      = (Frame.decode tag bytes).map Utf8.encode := by
  simp only [EngineSide.decoding, EngineSide.requiredText, EngineSide.textArgument,
    EngineSide.byteArgument, decode_toCText tagSent, bind, Except.bind, pure, Except.pure]
  cases Frame.decode tag bytes <;> rfl

/-- A codec call that has begun will answer what it asks for. -/
theorem beginCodec_told (thread : ThreadId) (call : CodecCall) (host : Host) :
    call.Answers (call.told thread (library.beginCodec thread call host).2.side
        (library.beginCodec thread call host).1) ∧
      Steady thread host (library.beginCodec thread call host).2 := by
  cases call with
  | encode tag text =>
    cases tagSent : toCText tag with
    | error refusal =>
      simp only [NativeLibrary.beginCodec, tagSent, CodecCall.Answers, CodecCall.told]
      exact ⟨trivial, .refl thread host⟩
    | ok sentTag =>
      cases textSent : toCText text with
      | error refusal =>
        simp only [NativeLibrary.beginCodec, tagSent, textSent, CodecCall.Answers, CodecCall.told]
        exact ⟨trivial, .refl thread host⟩
      | ok sentText =>
        have delivered := deliver_told thread (.encode tag text) (Frame.encode tag text) host.side
        simp only [NativeLibrary.beginCodec, tagSent, textSent, library, onSide,
          encoding_eq tagSent textSent, CodecCall.Answers]
        refine ⟨?_, rfl, rfl, delivered.2⟩
        cases result : Frame.encode tag text with
        | ok bytes => simpa only [result, CodecCall.read] using delivered.1
        | error error => simpa only [result] using delivered.1
  | decode tag bytes =>
    cases tagSent : toCText tag with
    | error refusal =>
      simp only [NativeLibrary.beginCodec, tagSent, CodecCall.Answers, CodecCall.told]
      exact ⟨trivial, .refl thread host⟩
    | ok sentTag =>
      have delivered := deliver_told thread (.decode tag bytes)
        ((Frame.decode tag bytes).map Utf8.encode) host.side
      simp only [NativeLibrary.beginCodec, tagSent, library, onSide, decoding_eq tagSent,
        CodecCall.Answers]
      refine ⟨?_, rfl, rfl, delivered.2⟩
      cases result : Frame.decode tag bytes with
      | ok text =>
        obtain ⟨⟨address, told⟩, -⟩ := by simpa only [result, Except.map] using delivered
        simp only [Except.map, told, CodecCall.read, Buffer.decode, Utf8.decode_encode,
          mapError_ok]
      | error error => simpa only [result, Except.map] using delivered.1

/-- One stage more changes nothing of what a codec call comes to. -/
theorem advanceCodec_told (thread : ThreadId) (call : CodecCall) (stage : CodecStage)
    (host : Host) :
    call.told thread (library.advanceCodec thread call stage host).2.side
        (library.advanceCodec thread call stage host).1 = call.told thread host.side stage ∧
      Steady thread host (library.advanceCodec thread call stage host).2 := by
  cases stage with
  | freeing buffers result =>
    cases buffers with
    | nil => exact ⟨rfl, .refl thread host⟩
    | cons buffer buffers => exact ⟨rfl, release_steady thread buffer host⟩
  | answered status out =>
    simp only [NativeLibrary.advanceCodec, NativeLibrary.settleCodec]
    cases taken : out.take with
    | error violation => exact ⟨by simp only [CodecCall.told, taken], .refl thread host⟩
    | ok buffer =>
      by_cases success : status = Status.ok
      · cases buffer with
        | none =>
          simp only [if_pos success]
          exact ⟨by simp only [CodecCall.told, taken, if_pos success], .refl thread host⟩
        | some buffer =>
          obtain ⟨buffers, freed⟩ := call.success_eq buffer
          simp only [if_pos success, freed]
          exact ⟨by simp only [CodecCall.told, taken, if_pos success], .refl thread host⟩
      · obtain ⟨detail, host', read, text, steady⟩ := takeDetail_ok thread host
        simp only [if_neg success, read]
        exact ⟨by simp only [CodecCall.told, taken, if_neg success, text], steady⟩

end Host

end EngineBridge
