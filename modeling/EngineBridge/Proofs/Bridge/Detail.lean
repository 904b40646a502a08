import EngineBridge.Native.EngineSide
import EngineBridge.Proofs.Basic
import EngineBridge.Proofs.Json.Spaced
/-!
# From an `EngineError` to the `BridgeError` of the caller

An engine records a failure as JSON text, and the bridge reads that text back: `parse_record`
says that the detail has the very kind, message, status and transaction of the failure, so
`failureOf_record` is the error that a caller gets for it, and `EngineError.arrives_whole` says so
of every failure and of every way to read its record.  A response that an engine computes crosses
as a C text and is read as the same text.
-/

namespace EngineBridge

/-! ## Records -/

namespace ErrorRecord

/-- The detail that a record stands for. -/
def detail (record : ErrorRecord) : ErrorDetail :=
  ⟨record.kind, record.message, record.status, record.transactionId, []⟩

/-- The members of a record, which are all strings. -/
def pairs (record : ErrorRecord) : List (String × String) :=
  [("kind", record.kind)]
    ++ (if record.message = "" then [] else [("message", record.message)])
    ++ (record.status.map fun status => ("status", status)).toList
    ++ (record.transactionId.map fun id => ("transactionId", id)).toList

theorem members_eq (record : ErrorRecord) : record.members = Json.strings record.pairs := by
  obtain ⟨kind, message, status, transactionId⟩ := record
  by_cases empty : message = "" <;> cases status <;> cases transactionId <;>
    simp [members, pairs, Json.strings, empty]

end ErrorRecord

namespace ErrorDetail

theorem ofMembers?_members (record : ErrorRecord) :
    ofMembers? record.members = some record.detail := by
  obtain ⟨kind, message, status, transactionId⟩ := record
  by_cases empty : message = "" <;> cases status <;> cases transactionId <;>
    simp [ofMembers?, ErrorRecord.members, ErrorRecord.detail, text?, nullableText?, only?,
      ownNames, NameMap.ofList, empty]

/-- The text of a record is read as its detail. -/
theorem ofText?_record (record : ErrorRecord) : ofText? record.text = some record.detail := by
  have read : Json.readMembersText record.text = .ok record.members := by
    rw [ErrorRecord.text, ErrorRecord.members_eq]
    exact Json.readMembersText_strings record.pairs
  simp only [ofText?, read, ofMembers?_members]

theorem parse_record (record : ErrorRecord) : parse record.text = record.detail := by
  rw [parse, ofText?_record, Option.getD_some]

end ErrorDetail

theorem ErrorRecord.text_not_blank (record : ErrorRecord) : Text.isAllBlank record.text = false := by
  rw [ErrorRecord.text, ErrorRecord.members_eq, Json.text_strings, Text.isAllBlank,
    String.toList_ofList]
  rfl

/-! ## Errors -/

namespace EngineError

/-- A failure never reports success. -/
theorem status_ne_ok (error : EngineError) : error.status ≠ Status.ok := by
  cases error <;> simp [status, Status.ok, Status.operationFailed, Status.invalidArgument,
    Status.corruptBytes, Status.unknownOperation, Status.panicked]

/-- The error that a caller gets for a failure of the engine. -/
def toBridge (error : EngineError) : BridgeError :=
  .nativeStatus error.status error.record.detail

end EngineError

/-- The error made of a failure's status and record. -/
theorem failureOf_record (error : EngineError) :
    failureOf error.status (some error.record.text) = error.toBridge := by
  simp only [failureOf, ErrorRecord.text_not_blank, Bool.false_eq_true, if_false,
    ErrorDetail.parse_record, EngineError.toBridge]

/-- **A failure of an engine arrives whole.**  Whatever its strings hold, reading its record answers
an error with the failure's code and the very record, and nothing besides; the text is neither blank
nor taken for a message of a kind that is not known. -/
theorem EngineError.arrives_whole {σ : Type} (error : EngineError) (after : σ → σ) (s : σ) :
    ∃ detail : ErrorDetail,
      checkStatus error.status (fun s => (.ok (some error.record.text), after s)) s =
          (.error (.error (.nativeStatus error.status detail)), after s) ∧
        detail.record = error.record ∧ detail.extra = [] ∧
        (BridgeError.nativeStatus error.status detail).status =
          some (error.record.status.getD error.record.kind) ∧
        Text.isAllBlank error.record.text = false ∧
        ErrorDetail.ofText? error.record.text = some detail := by
  refine ⟨error.record.detail, ?_, rfl, rfl, rfl, error.record.text_not_blank,
    ErrorDetail.ofText?_record error.record⟩
  simp only [checkStatus, if_neg error.status_ne_ok, failureOf_record, EngineError.toBridge]

/-! ## Texts -/

theorem toCText_bytes {text : String} {sent : CText} (h : toCText text = .ok sent) :
    sent.bytes = Utf8.encode text := by
  rw [toCText, CText.ofBytes] at h
  split at h
  · cases h
  · cases h
    rfl

theorem decode_toCText {text : String} {sent : CText} (h : toCText text = .ok sent) :
    sent.decode = .ok text := by
  rw [CText.decode, toCText_bytes h, Utf8.decode_encode]

theorem toCText_ok {text : String} (h : '\x00' ∉ text.toList) : ∃ sent, toCText text = .ok sent := by
  have noNul : 0 ∉ Utf8.encode text := fun zero => h (Utf8.zero_mem_encode_iff.1 zero)
  exact ⟨⟨Utf8.encode text, noNul⟩, by simp [toCText, CText.ofBytes, noNul]⟩

theorem toCText_text (value : Json) : ∃ sent, toCText value.text = .ok sent :=
  toCText_ok fun nul => (Json.text_plain value).noNul (Utf8.zero_mem_encode_iff.2 nul)

/-- What a request of an engine comes to for its caller. -/
def Engine.outcome (engine : Engine) (request : String) : Except BridgeError String :=
  (engine.dispatch request).mapError EngineError.toBridge

theorem Engine.dispatch_text {engine : Engine} {request text : String}
    (done : engine.dispatch request = .ok text) : ∃ value : Json, text = value.text := by
  rw [Engine.dispatch] at done
  cases selected : engine.select request with
  | error error => simp [selected, bind, Except.bind] at done
  | ok chosen =>
    obtain ⟨handler, parsed⟩ := chosen
    cases ran : handler.run parsed with
    | error error => simp [selected, ran, bind, Except.bind] at done
    | ok value =>
      simp only [selected, ran, bind, Except.bind, pure, Except.pure, Except.ok.injEq] at done
      exact ⟨value, done.symm⟩

/-- The text of a value crosses the boundary: what is handed out is read as the text. -/
theorem EngineSide.responseOf_text (value : Json) :
    ∃ response, responseOf (.ok value.text) = .ok response ∧
      readCText response = .ok value.text := by
  have noNul := (Json.text_plain value).noNul
  refine ⟨⟨Utf8.encode value.text, noNul⟩, ?_, ?_⟩
  · simp only [responseOf, CText.ofBytes, noNul, dite_false]
  · simp only [readCText, CText.decode, Utf8.decode_encode]

end EngineBridge
