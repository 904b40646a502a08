import Mathlib.Algebra.Group.Nat.Defs
import EngineBridge.Proofs.Frame.Grammar
/-!
# Encoding what was decoded

A text that was decoded is canonical, so it can be encoded again (`reencode_iff`).  What is decoded
then has been read and written once more, and a double may move each time: the text comes back
exactly if that changes nothing and does not make it too long.
-/

namespace EngineBridge.Frame

variable {compress : List UInt8 → List UInt8} {tag text : String} {bytes : List UInt8}

/-- What a frame that is decoded is like: its tag is one that can be encoded, and it holds JSON. -/
theorem decode_ok (decoded : decode tag bytes = .ok text) :
    tag ≠ "" ∧ (Utf8.encode tag).length ≤ greatestTag ∧
      ∃ stream payload value, inflate stream = .ok payload ∧ Json.read payload = .ok value ∧
        text = value.text := by
  obtain ⟨nonempty, frame, -, value, -, isFrame, is⟩ := decode_ok_iff.1 decoded
  obtain @⟨high, low, stream, payload, _, length, holds, fits, json⟩ := isFrame
  have highByte := high.toNat_lt
  have lowByte := low.toNat_lt
  have inflated := inflate_ok_iff.2 ⟨fits, stream, [], (List.append_nil _).symm, holds⟩
  exact ⟨nonempty, by rw [greatestTag]; omega, stream, payload, value, inflated, json, is⟩

/-- **When decoded text is stable.**  It can always be encoded again, and comes back exactly if what
is read from it has a text that is not too long, and reading that text once more changes nothing. -/
theorem reencode_iff (restores : Zlib.Restores compress) (decoded : decode tag bytes = .ok text) :
    ∃ value frame, Json.readText text = .ok value ∧ encodeWith compress tag text = .ok frame ∧
      (decode tag frame = .ok text ↔
        (Utf8.encode value.text).length ≤ greatestPayload ∧ value.reread.text = text) := by
  obtain ⟨nonempty, short, stream, payload, value, -, read, rfl⟩ := decode_ok decoded
  have reread := Json.readText_text (Json.kept_of_read read)
  have encoded : encodeWith compress tag value.text = .ok _ :=
    encodeWith_ok_iff.2 ⟨nonempty, short, _, reread, rfl⟩
  refine ⟨value.reread, _, reread, encoded, ?_⟩
  rw [decode_encoded restores encoded reread]
  by_cases fits : (Utf8.encode value.reread.text).length ≤ greatestPayload
  · simp [fits]
  · simp [fits]

/-- A frame that holds `8000000000000001e0`, the double of that value. -/
theorem decode_scientific :
    decode "T" (assemble (Utf8.encode "T") (Zlib.store (Utf8.encode "8000000000000001e0"))) =
      .ok "8000000000000001.0" := by
  have read : Json.read (Utf8.encode "8000000000000001e0") =
      .ok (.number (.float ⟨false, ⟨8000000000000001, 0⟩⟩)) := by
    rfl
  have shown : (Json.number (.float ⟨false, ⟨8000000000000001, 0⟩⟩)).text = "8000000000000001.0" := by
    decide +kernel
  rw [decode_assemble (by decide) (by decide), inflate_compress Zlib.store_restores,
    if_pos (by decide)]
  simp only [bind, Except.bind, canonical, read, shown]

/-- A double that reading does not move is stable. -/
theorem reencode_iff_half :
    ∃ frame, encode "T" "0.5" = .ok frame ∧ decode "T" frame = .ok "0.5" := by
  have read : Json.readText "0.5" = .ok (.number (.float ⟨false, ⟨2 ^ 52, -53⟩⟩)) := by
    rfl
  have shown : (Json.number (.float ⟨false, ⟨2 ^ 52, -53⟩⟩)).text = "0.5" := by
    decide +kernel
  have same : (Json.number (.float ⟨false, ⟨2 ^ 52, -53⟩⟩)).reread.text = "0.5" := by
    decide +kernel
  have decoded : decode "T" (assemble (Utf8.encode "T") (Zlib.store (Utf8.encode "0.5"))) =
      .ok "0.5" := by
    have read : Json.read (Utf8.encode "0.5") = _ := read
    rw [decode_assemble (by decide) (by decide), inflate_compress Zlib.store_restores,
      if_pos (by decide)]
    simp only [bind, Except.bind, canonical, read, shown]
  obtain ⟨value, frame, read', encoded, stable⟩ := reencode_iff Zlib.store_restores decoded
  obtain rfl := Except.ok.inj (read.symm.trans read')
  exact ⟨frame, encoded, stable.2 ⟨by rw [shown]; decide, same⟩⟩

/-- Positional text puts a zero behind the point, and the number read from there is rounded
twice: the text of this double is read as the next one. -/
theorem unstable_double :
    ∃ frame, encode "T" "8000000000000001.0" = .ok frame ∧
      decode "T" (assemble (Utf8.encode "T") (Zlib.store (Utf8.encode "8000000000000001e0"))) =
        .ok "8000000000000001.0" ∧
      decode "T" frame = .ok "8000000000000002.0" := by
  have read : Json.readText "8000000000000001.0" =
      .ok (.number (.float ⟨false, ⟨8000000000000002, 0⟩⟩)) := by
    rfl
  have encoded : encode "T" "8000000000000001.0" = .ok _ :=
    encodeWith_ok_iff.2 ⟨by decide, by decide, _, read, rfl⟩
  have decoded := decode_encoded Zlib.store_restores encoded read
  have fits : (Utf8.encode (Json.number (.float ⟨false, ⟨8000000000000002, 0⟩⟩)).text).length ≤
      greatestPayload := by
    decide +kernel
  have shown : (Json.number (.float ⟨false, ⟨8000000000000002, 0⟩⟩)).reread.text =
      "8000000000000002.0" := by
    decide +kernel
  rw [if_pos fits, shown] at decoded
  exact ⟨_, encoded, decode_scientific, decoded⟩

end EngineBridge.Frame
