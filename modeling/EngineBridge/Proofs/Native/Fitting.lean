import EngineBridge.Proofs.Engine.Requests
import EngineBridge.Proofs.Frame.Stability
import EngineBridge.Proofs.Native.Texts
/-!
# Texts of an engine

Whatever an engine writes is the canonical text of a JSON value, and control characters are written
as escapes there.  So each of its texts is a C text as it is: responses, decoded texts and error
records arrive whole, and no request fails for a response that could not be handed out
(`engine_texts_fit`).
-/

namespace EngineBridge

theorem Json.text_arrives (value : Json) :
    ∃ sent, toCText value.text = .ok sent ∧ Arrives value.text sent := by
  obtain ⟨sent, is⟩ := toCText_text value
  exact ⟨sent, is, arrives_of_sent is⟩

/-- What an operation answers is the text of a value. -/
theorem Routine.serve_text {σ : Type} {registrations : List (String × Routine σ)}
    {request text : String} {s : σ}
    (answers : (serve (register registrations) request s).1 = .ok text) :
    ∃ value : Json, text = value.text := by
  have serves := serve_serves registrations request s
  generalize serve (register registrations) request s = outcome at answers serves
  cases serves with
  | refused => cases answers
  | unknown => cases answers
  | @served members name routine result asks last comes =>
    generalize (routine (requestOf members) s).1 = reaction at comes
    cases comes with
    | responded value => exact ⟨value, (Except.ok.inj answers).symm⟩
    | failed | panicked | panickedMutely => cases answers

namespace EngineSide

variable (side : EngineSide) (thread : ThreadId) (context : Token)

/-- What a callback is told of a result, and what it leaves: a text arrives whole, and an error is
the one that the request came to. -/
inductive Reports : Except EngineError String → Callback × EngineSide → Prop where
  | responded {text : String} {response : CText} (arrives : Arrives text response) :
    Reports (.ok text) (⟨thread, context, .ok, some response⟩,
      { side with counters := { side.counters with callbacks := side.counters.callbacks + 1 } })
  | failed (error : EngineError) :
    Reports (.error error) (⟨thread, context, error.status, none⟩,
      record thread error
        { side with counters := { side.counters with callbacks := side.counters.callbacks + 1 } })

/-- A result whose text crosses is reported as it is. -/
theorem complete_reports {result : Except EngineError String}
    (crosses : ∀ text, result = .ok text → ∃ sent, toCText text = .ok sent) :
    side.Reports thread context result (side.complete thread context result) := by
  cases result with
  | error error => exact .failed error
  | ok text =>
    obtain ⟨sent, is⟩ := crosses text rfl
    have response : responseOf (.ok text) = .ok sent := by
      rw [toCText, mapError_ok_iff] at is
      rw [responseOf, is]
    simp only [complete, response]
    exact .responded (arrives_of_sent is)

end EngineSide

/-- **Texts of an engine are C texts.**  No byte of a canonical text is a control character.  So
whatever operations are registered and whatever is asked, the callback is told the response as it
is or the error that the request came to; and decoded texts and error records cross whole. -/
theorem engine_texts_fit {σ : Type} (value : Json) (registrations : List (String × Routine σ))
    (request : String) (s : σ) (side : EngineSide) (thread : ThreadId) (context : Token)
    (tag : String) (frame : List UInt8) (record : ErrorRecord) :
    let result := (Routine.serve (Routine.register registrations) request s).1
    (∀ byte ∈ Utf8.encode value.text, 0x20 ≤ byte) ∧
      side.Reports thread context result (side.complete thread context result) ∧
      (∀ text, Frame.decode tag frame = .ok text →
        ∃ sent, toCText text = .ok sent ∧ Arrives text sent) ∧
      ∃ sent, toCText record.text = .ok sent ∧ Arrives record.text sent := by
  intro result
  refine ⟨fun byte => (Json.text_plain value).le_of_mem_encode, ?_, ?_, ?_⟩
  · refine side.complete_reports thread context fun text answers => ?_
    obtain ⟨value, rfl⟩ := Routine.serve_text answers
    exact toCText_text value
  · intro text decoded
    obtain ⟨-, -, _, _, value, -, -, rfl⟩ := Frame.decode_ok decoded
    exact value.text_arrives
  · exact Json.text_arrives (.object record.members)

/-- A request for an echo, with a nul in it. -/
def nulRequest : String := "\x7b\"$type\":\"echo\",\"a\":\"\\u0000\"\x7d"

/-- A frame that holds a string with a nul. -/
def nulFrame : List UInt8 :=
  Frame.assemble (Utf8.encode "T") (Zlib.store (Utf8.encode "\"\\u0000\""))

theorem decode_nulFrame : Frame.decode "T" nulFrame = .ok "\"\\u0000\"" := by
  have read : Json.read (Utf8.encode "\"\\u0000\"") = .ok (.string "\x00") := rfl
  have shown : (Json.string "\x00").text = "\"\\u0000\"" := by decide
  rw [nulFrame, Frame.decode_assemble (by decide) (by decide),
    Frame.inflate_compress Zlib.store_restores, if_pos (by decide)]
  simp only [bind, Except.bind, Frame.canonical, read, shown]

/-- A nul in a request comes back, one in a frame comes out, and one in a message is recorded. -/
theorem engine_texts_fit_nul :
    let routines := Routine.register ([] : List (String × Routine Unit))
    let result := (Routine.serve routines nulRequest ()).1
    (∃ response, Arrives "\x7b\"a\":\"\\u0000\"\x7d" response ∧
      (EngineSide.initial.complete 1 7 result).1 = ⟨1, 7, .ok, some response⟩) ∧
      (∃ text sent, Frame.decode "T" nulFrame = .ok text ∧ toCText text = .ok sent) ∧
      ∃ sent, toCText (ErrorRecord.mk "K" "\x00" none none).text = .ok sent := by
  intro routines result
  have answers : result = .ok "\x7b\"a\":\"\\u0000\"\x7d" := rfl
  obtain ⟨-, reports, decoded, recorded, is, -⟩ := engine_texts_fit (.string "\x00")
    ([] : List (String × Routine Unit)) nulRequest () .initial 1 7 "T" nulFrame
    ⟨"K", "\x00", none, none⟩
  obtain ⟨sent, crosses, -⟩ := decoded _ decode_nulFrame
  refine ⟨?_, ⟨_, sent, decode_nulFrame, crosses⟩, recorded, is⟩
  change EngineSide.Reports _ _ _ result (EngineSide.complete _ _ result _) at reports
  rw [answers] at reports ⊢
  generalize EngineSide.initial.complete 1 7 _ = told at reports ⊢
  cases reports with
  | responded arrives => exact ⟨_, arrives, rfl⟩

end EngineBridge
