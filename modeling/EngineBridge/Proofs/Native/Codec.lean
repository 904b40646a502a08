import EngineBridge.Bridge.Codec
import EngineBridge.Native.RawCalls
import EngineBridge.Proofs.Native.Host
/-!
# Codec calls in one piece

What the bridge gets from an engine when nobody comes between: a frame, a text, or the error that
the engine's failure stands for.  The engine's frames are made by any compressor; with the one that
stores it is the engine at work (`libraryWith_store`).
-/

namespace EngineBridge.Host

variable {compress : List UInt8 → List UInt8} {tag text : String} {bytes : List UInt8}

/-- The engine's library with a compressor. -/
def libraryWith (compress : List UInt8 → List UInt8) : NativeLibrary Host :=
  { library with
    encode := fun thread tag text =>
      onSide (EngineSide.deliver thread (EngineSide.encodingWith compress (some tag) (some text))) }

theorem libraryWith_store : libraryWith Zlib.store = library := rfl

theorem encodingWith_eq {sentTag sentText : CText} (tagSent : toCText tag = .ok sentTag)
    (textSent : toCText text = .ok sentText) :
    EngineSide.encodingWith compress (some sentTag) (some sentText) =
      Frame.encodeWith compress tag text := by
  simp only [EngineSide.encodingWith, EngineSide.requiredText, EngineSide.textArgument,
    decode_toCText tagSent, decode_toCText textSent, bind, Except.bind]

/-- Bytes that are handed out reach the bridge. -/
theorem codecResult_written (thread : ThreadId) (operation : String) (buffer : Buffer)
    (host : Host) :
    (libraryWith compress).codecResult thread operation Status.ok (.written buffer) host =
      (.ok buffer, host) := rfl

/-! ## What is left behind -/

/-- A call of a thread has left nothing behind: the engine has its jobs, other threads would read
what they would have read, and the buffers that were out are out. -/
structure Restored (thread : ThreadId) (host host' : Host) : Prop extends
    Steady thread host host' where
  live : host'.side.live = host.side.live

/-- Reading the thread's last error takes it away and gives its buffer back. -/
theorem readDetail_some {thread : ThreadId} {host : Host} {detail : String}
    (last : host.side.lastError thread = some detail) :
    ∃ host', library.readDetail thread host = (.ok (some detail), host') ∧
      Restored thread host host' ∧ host'.side.lastError thread = none := by
  simp only [NativeLibrary.readDetail, NativeLibrary.takeDetail, NativeLibrary.releaseAny, library,
    onSide, EngineSide.takeLastError, OutParameters.both, OutParameters.isIncomplete,
    EngineSide.take, last, EngineSide.allocate, EngineSide.release, Bool.or_self,
    Bool.false_eq_true, if_false, Option.getD_some, OutSlots.take, Option.map_some,
    Buffer.lossyText, Utf8.decodeLossy_encode]
  refine ⟨_, rfl, ⟨⟨rfl, rfl, fun t other => ?_⟩, List.erase_cons_head _ _⟩, ?_⟩
  · exact if_neg other
  · exact if_pos rfl

/-- A failure that was recorded reaches the bridge as its error, and nothing of it is left. -/
theorem codecResult_failed (compress : List UInt8 → List UInt8) {thread : ThreadId}
    (operation : String) (error : EngineError) {host : Host}
    (last : host.side.lastError thread = some error.record.text) :
    ∃ host', (libraryWith compress).codecResult thread operation error.status .untouched host =
        (.error (.error error.toBridge), host') ∧
      Restored thread host host' ∧ host'.side.lastError thread = none := by
  obtain ⟨later, read, restored, empty⟩ := readDetail_some last
  have read : (libraryWith compress).readDetail thread host =
      (.ok (some error.record.text), later) := read
  simp only [NativeLibrary.codecResult, OutSlots.take, OutSlots.untouched, checkStatus,
    if_neg error.status_ne_ok, read, failureOf_record]
  exact ⟨later, rfl, restored, empty⟩

/-! ## Encoding and decoding -/

/-- A text is encoded into its frame. -/
theorem encodeRaw_ok (thread : ThreadId) (host : Host) {sentTag sentText : CText}
    (tagSent : toCText tag = .ok sentTag) (textSent : toCText text = .ok sentText)
    (encoded : Frame.encodeWith compress tag text = .ok bytes) :
    ∃ address host', (libraryWith compress).encodeRaw thread tag text host =
      (.ok ⟨address, bytes⟩, host') := by
  have made := (encodingWith_eq tagSent textSent).trans encoded
  refine ⟨host.side.nextAddress, { host with side := (host.side.allocate bytes).2 }, ?_⟩
  simp only [NativeLibrary.encodeRaw, tagSent, textSent, libraryWith, onSide, made]
  rfl

/-- A frame is decoded into its text: nothing is recorded, and the buffer is given back. -/
theorem decodeRaw_ok (compress : List UInt8 → List UInt8) (thread : ThreadId) (host : Host)
    {sentTag : CText} (tagSent : toCText tag = .ok sentTag)
    (decoded : Frame.decode tag bytes = .ok text) :
    ∃ host', (libraryWith compress).decodeRaw thread tag bytes host = (.ok text, host') ∧
      Restored thread host host' ∧ host'.side.lastError = host.side.lastError := by
  have made := decoding_eq tagSent bytes
  rw [decoded] at made
  have answered : (libraryWith compress).decode thread sentTag bytes host =
      ((.ok, .written ⟨host.side.nextAddress, Utf8.encode text⟩),
        { host with side := (host.side.allocate (Utf8.encode text)).2 }) := by
    simp only [libraryWith, library, onSide, made]
    rfl
  simp only [NativeLibrary.decodeRaw, tagSent, answered, codecResult_written, Buffer.decode,
    Utf8.decode_encode]
  exact ⟨_, rfl, ⟨⟨rfl, rfl, fun _ _ => rfl⟩, List.erase_cons_head _ _⟩, rfl⟩

/-- What is no frame of the tag is refused, and the detail of the failure is taken. -/
theorem decodeRaw_error (compress : List UInt8 → List UInt8) (thread : ThreadId) (host : Host)
    {sentTag : CText} {error : EngineError} (tagSent : toCText tag = .ok sentTag)
    (refused : Frame.decode tag bytes = .error error) :
    ∃ host', (libraryWith compress).decodeRaw thread tag bytes host =
        (.error (.error error.toBridge), host') ∧
      Restored thread host host' ∧ host'.side.lastError thread = none := by
  have made := decoding_eq tagSent bytes
  rw [refused] at made
  have answered : (libraryWith compress).decode thread sentTag bytes host =
      ((error.status, .untouched), { host with side := host.side.record thread error }) := by
    simp only [libraryWith, library, onSide, made]
    rfl
  have last : ({ host with side := host.side.record thread error } : Host).side.lastError thread =
      some error.record.text := EngineSide.record_lastError error
  obtain ⟨later, read, restored, empty⟩ := codecResult_failed compress "decode" error last
  simp only [NativeLibrary.decodeRaw, tagSent, answered, read]
  refine ⟨later, rfl, ⟨⟨restored.engine, restored.jobs, fun t other => ?_⟩, restored.live⟩, empty⟩
  rw [restored.others t other]
  exact EngineSide.record_lastError_of_ne error other

end EngineBridge.Host
