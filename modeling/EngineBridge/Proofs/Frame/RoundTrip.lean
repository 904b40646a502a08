import EngineBridge.Frame
import EngineBridge.Proofs.Basic
import EngineBridge.Proofs.Json.Kept
import EngineBridge.Proofs.Json.Spaced
import EngineBridge.Proofs.Zlib.Store
/-!
# Frames, back and forth

What `encodeWith` accepts (`encodeWith_eq`) and what `decode` makes of a frame it gave
(`decode_encoded`), for any compressor whose streams are given back.  The rest follows: texts
without doubles come back in canonical form and stay as they are (`round_trip`).
-/

namespace EngineBridge.Frame

variable {compress : List UInt8 → List UInt8} {tag text : String} {frame : List UInt8}

/-! ## Encoding -/

/-- Which tags and texts make a frame, and which frame they make. -/
theorem encodeWith_ok_iff :
    encodeWith compress tag text = .ok frame ↔
      tag ≠ "" ∧ (Utf8.encode tag).length ≤ greatestTag ∧
        ∃ value, Json.readText text = .ok value ∧
          frame = assemble (Utf8.encode tag) (compress (Utf8.encode value.text)) := by
  rw [encodeWith]
  by_cases empty : tag = ""
  · simp [empty]
  · rw [if_neg empty]
    cases Json.readText text with
    | error error => simp
    | ok value =>
      dsimp only
      by_cases long : greatestTag < (Utf8.encode tag).length
      · rw [if_pos long]
        simp only [reduceCtorEq, false_iff]
        exact fun both => absurd both.2.1 (Nat.not_le_of_lt long)
      · rw [if_neg long]
        simp only [Except.ok.injEq, exists_eq_left']
        exact ⟨fun is => ⟨empty, Nat.le_of_not_lt long, is.symm⟩, fun ⟨_, _, is⟩ => is.symm⟩

theorem encodeWith_error {error : EngineError} (is : encodeWith compress tag text = .error error) :
    ∃ message, error = .invalidArgument message := by
  rw [encodeWith] at is
  split at is
  · exact ⟨_, (Except.error.inj is).symm⟩
  · split at is
    · exact ⟨_, (Except.error.inj is).symm⟩
    · dsimp only at is
      split at is
      · exact ⟨_, (Except.error.inj is).symm⟩
      · simp at is

/-! ## Decoding -/

theorem splitTag_error {length : Nat} {body : List UInt8} {error : EngineError}
    (is : splitTag length body = .error error) : ∃ reason, error = .corrupt reason := by
  rw [splitTag] at is
  split at is
  · exact ⟨_, (Except.error.inj is).symm⟩
  · cases is

theorem inflate_error {stream : List UInt8} {error : EngineError}
    (is : inflate stream = .error error) : ∃ reason, error = .corrupt reason := by
  rw [inflate] at is
  split at is
  · cases is
  · exact ⟨_, (Except.error.inj is).symm⟩
  · exact ⟨_, (Except.error.inj is).symm⟩
  · split at is <;> exact ⟨_, (Except.error.inj is).symm⟩

theorem canonical_error {payload : List UInt8} {error : EngineError}
    (is : canonical payload = .error error) : ∃ reason, error = .corrupt reason := by
  rw [canonical] at is
  split at is
  · cases is
  · exact ⟨_, (Except.error.inj is).symm⟩

/-- Decoding fails with no other kind of error, if there is a tag. -/
theorem decode_error {bytes : List UInt8} {error : EngineError} (nonempty : tag ≠ "")
    (is : decode tag bytes = .error error) : ∃ reason, error = .corrupt reason := by
  rw [decode.eq_def, if_neg nonempty] at is
  split at is
  · split at is
    · exact ⟨_, (Except.error.inj is).symm⟩
    · rcases bind_error_iff.1 is with short | ⟨⟨held, stream⟩, -, is⟩
      · exact splitTag_error short
      · dsimp only at is
        split at is
        · exact ⟨_, (Except.error.inj is).symm⟩
        · rcases bind_error_iff.1 is with broken | ⟨payload, -, is⟩
          · exact inflate_error broken
          · exact canonical_error is
  · exact ⟨_, (Except.error.inj is).symm⟩

/-- What is decoded behind the magic number, from a tag of the length that is given for it and
what follows. -/
theorem decode_parts (nonempty : tag ≠ "") {high low : UInt8} {held : List UInt8}
    (length : high.toNat * 256 + low.toNat = held.length) (stream : List UInt8) :
    decode tag (magic ++ high :: low :: (held ++ stream)) =
      if held ≠ Utf8.encode tag then
        .error (.corrupt ("frame holds " ++ Utf8.decodeLossy held ++ ", expected " ++ tag))
      else inflate stream >>= canonical := by
  have enough : ¬ (held ++ stream).length < held.length := by
    rw [List.length_append]
    omega
  rw [magic]
  simp only [List.cons_append, List.nil_append]
  rw [decode, if_neg nonempty, magic, if_neg (not_not_intro rfl), length, splitTag, if_neg enough,
    List.splitAt_eq, List.take_left, List.drop_left]
  rfl

/-- What a frame of one tag is as a frame of another. -/
theorem decode_assemble_eq {other : String} (nonempty : other ≠ "")
    (short : (Utf8.encode tag).length ≤ greatestTag) (stream : List UInt8) :
    decode other (assemble (Utf8.encode tag) stream) =
      if Utf8.encode tag ≠ Utf8.encode other then
        .error (.corrupt ("frame holds " ++ tag ++ ", expected " ++ other))
      else inflate stream >>= canonical := by
  have length : (UInt8.ofNat ((Utf8.encode tag).length / 256)).toNat * 256
      + (UInt8.ofNat ((Utf8.encode tag).length % 256)).toNat = (Utf8.encode tag).length := by
    rw [greatestTag] at short
    rw [Utf8.toNat_byte (by omega), Utf8.toNat_byte (by omega)]
    omega
  rw [assemble, decode_parts nonempty length, Utf8.decodeLossy_encode]

/-- A frame with the tag is decoded from its stream. -/
theorem decode_assemble (nonempty : tag ≠ "") (short : (Utf8.encode tag).length ≤ greatestTag)
    (stream : List UInt8) :
    decode tag (assemble (Utf8.encode tag) stream) = inflate stream >>= canonical := by
  rw [decode_assemble_eq nonempty short, if_neg (not_not_intro rfl)]

/-- A frame of one tag is no frame of another. -/
theorem decode_otherTag {other : String} (nonempty : other ≠ "") (apart : other ≠ tag)
    (encoded : encodeWith compress tag text = .ok frame) :
    decode other frame =
      .error (.corrupt ("frame holds " ++ tag ++ ", expected " ++ other)) := by
  obtain ⟨-, short, value, -, rfl⟩ := encodeWith_ok_iff.1 encoded
  have differ : Utf8.encode tag ≠ Utf8.encode other := fun same => apart (by
    have read := Utf8.decode_encode tag
    rw [same, Utf8.decode_encode] at read
    exact Except.ok.inj read)
  rw [decode_assemble_eq nonempty short, if_pos differ]

/-- A compressed payload is found unless it is too long. -/
theorem inflate_compress (restores : Zlib.Restores compress) (payload : List UInt8) :
    inflate (compress payload) = if payload.length ≤ greatestPayload then .ok payload
      else .error (.corrupt "payload exceeds size limit") := by
  rw [inflate, restores]
  by_cases fits : payload.length ≤ greatestPayload
  · rw [if_pos fits, if_pos fits]
  · have unbroken : breaksBehindLimit (compress payload) = false := by
      rw [breaksBehindLimit, restores]
      by_cases next : payload.length ≤ greatestPayload + 1
      · rw [if_pos next]
      · rw [if_neg next]
    rw [if_neg fits, if_neg fits]
    dsimp only
    rw [unbroken]
    rfl

/-- **What is decoded from a frame that was encoded**: the text is read and written once more,
unless the payload is too long. -/
theorem decode_encoded (restores : Zlib.Restores compress)
    (encoded : encodeWith compress tag text = .ok frame) {value : Json}
    (read : Json.readText text = .ok value) :
    decode tag frame = if (Utf8.encode value.text).length ≤ greatestPayload
      then .ok value.reread.text else .error (.corrupt "payload exceeds size limit") := by
  obtain ⟨nonempty, short, value', read', rfl⟩ := encodeWith_ok_iff.1 encoded
  obtain rfl := Except.ok.inj (read.symm.trans read')
  have again : canonical (Utf8.encode value.text) = .ok value.reread.text := by
    have reread : Json.read (Utf8.encode value.text) = .ok value.reread :=
      Json.readText_text (Json.kept_of_readText read)
    rw [canonical, reread]
  rw [decode_assemble nonempty short, inflate_compress restores]
  split
  · exact again
  · rfl

/-! ## The two directions together -/

/-- **Frames give canonical text back.**  A tag and a text make a frame exactly if the tag is not
empty and not too long and the text is JSON; all other attempts are invalid arguments.  If none of
the numbers is a double and the canonical text is not too long, decoding gives the canonical text:
members are in order at every depth, and of several members of one name the last is kept.  The
canonical text then makes the same frame again. -/
theorem round_trip (restores : Zlib.Restores compress) (tag text : String) :
    ((∃ frame, encodeWith compress tag text = .ok frame) ↔
        tag ≠ "" ∧ (Utf8.encode tag).length ≤ greatestTag ∧
          ∃ value, Json.readText text = .ok value) ∧
      (∀ error, encodeWith compress tag text = .error error →
        ∃ message, error = .invalidArgument message) ∧
      ∀ frame value, encodeWith compress tag text = .ok frame → Json.readText text = .ok value →
        Json.Kept Json.greatestDepth value ∧
          (∀ members, Json.readMembersText text = .ok members →
            value = .object (NameMap.ofList members)) ∧
          (value.Whole → (Utf8.encode value.text).length ≤ greatestPayload →
            decode tag frame = .ok value.text ∧
              encodeWith compress tag value.text = .ok frame) := by
  refine ⟨?_, fun error is => encodeWith_error is, fun frame value encoded read => ?_⟩
  · constructor
    · rintro ⟨frame, encoded⟩
      obtain ⟨nonempty, short, value, read, -⟩ := encodeWith_ok_iff.1 encoded
      exact ⟨nonempty, short, value, read⟩
    · rintro ⟨nonempty, short, value, read⟩
      exact ⟨_, encodeWith_ok_iff.2 ⟨nonempty, short, value, read, rfl⟩⟩
  · have kept := Json.kept_of_readText read
    refine ⟨kept, fun members all => ?_, fun whole fits => ?_⟩
    · exact Except.ok.inj (read.symm.trans (Json.readText_of_readMembersText all))
    · have same := whole.reread
      have decoded := decode_encoded restores encoded read
      rw [if_pos fits, same] at decoded
      obtain ⟨nonempty, short, value', read', is⟩ := encodeWith_ok_iff.1 encoded
      obtain rfl := Except.ok.inj (read.symm.trans read')
      have reread := Json.readText_text kept
      rw [same] at reread
      exact ⟨decoded, encodeWith_ok_iff.2 ⟨nonempty, short, value, reread, is⟩⟩

/-- Members come back in order, the last of a name alone. -/
theorem round_trip_unordered :
    ∃ frame, encode "T" "\x7b \"b\": 1, \"a\": [true, null], \"b\": 2 \x7d" = .ok frame ∧
      decode "T" frame = .ok "\x7b\"a\":[true,null],\"b\":2\x7d" ∧
      encode "T" "\x7b\"a\":[true,null],\"b\":2\x7d" = .ok frame := by
  have read : Json.readText "\x7b \"b\": 1, \"a\": [true, null], \"b\": 2 \x7d" =
      .ok (.object [("a", .array [.bool true, .null]), ("b", .number (.integer 2))]) := by
    rfl
  have whole : Json.Whole
      (.object [("a", .array [.bool true, .null]), ("b", .number (.integer 2))]) := by
    refine .object ?_
    simp only [List.mem_cons, List.not_mem_nil, or_false, forall_eq_or_imp, forall_eq]
    refine ⟨.array ?_, .integer 2⟩
    simp only [List.mem_cons, List.not_mem_nil, or_false, forall_eq_or_imp, forall_eq]
    exact ⟨.bool true, .null⟩
  obtain ⟨accepted, -, back⟩ := round_trip Zlib.store_restores "T"
    "\x7b \"b\": 1, \"a\": [true, null], \"b\": 2 \x7d"
  obtain ⟨frame, encoded⟩ := accepted.2 ⟨by decide, by decide, _, read⟩
  obtain ⟨-, -, canonical⟩ := back frame _ encoded read
  exact ⟨frame, encoded, canonical whole (by decide)⟩

/-- **Which frames are decoded**: those whose payload is not too long.  Encoding does not look at
that length. -/
theorem decodes_iff_short (restores : Zlib.Restores compress)
    (encoded : encodeWith compress tag text = .ok frame) :
    ∃ value, Json.readText text = .ok value ∧
      ((∃ back, decode tag frame = .ok back) ↔
        (Utf8.encode value.text).length ≤ greatestPayload) ∧
      (greatestPayload < (Utf8.encode value.text).length →
        decode tag frame = .error (.corrupt "payload exceeds size limit")) := by
  obtain ⟨-, -, value, read, -⟩ := encodeWith_ok_iff.1 encoded
  have decoded := decode_encoded restores encoded read
  refine ⟨value, read, ?_, fun long => ?_⟩
  · by_cases fits : (Utf8.encode value.text).length ≤ greatestPayload
    · rw [if_pos fits] at decoded
      exact ⟨fun _ => fits, fun _ => ⟨_, decoded⟩⟩
    · rw [if_neg fits] at decoded
      refine ⟨fun ⟨back, is⟩ => ?_, fun short => absurd short fits⟩
      rw [decoded] at is
      simp at is
  · rw [decoded, if_neg (Nat.not_le_of_lt long)]

/-- A short text is decoded. -/
theorem decodes_iff_short_empty :
    ∃ frame, encode "T" "\x7b \x7d" = .ok frame ∧ ∃ back, decode "T" frame = .ok back := by
  have read : Json.readText "\x7b \x7d" = .ok (.object []) := by rfl
  obtain ⟨frame, encoded⟩ : ∃ frame, encode "T" "\x7b \x7d" = .ok frame :=
    ⟨_, encodeWith_ok_iff.2 ⟨by decide, by decide, _, read, rfl⟩⟩
  obtain ⟨value, read', decodes, -⟩ := decodes_iff_short Zlib.store_restores encoded
  obtain rfl := Except.ok.inj (read.symm.trans read')
  exact ⟨frame, encoded, decodes.2 (by decide)⟩

/-- A string of as many characters as a payload may have bytes makes a frame that is refused: the
quotes make the payload too long. -/
theorem decode_long_string {string : String} (long : greatestPayload ≤ string.toList.length) :
    ∃ frame, encode "T" (Json.string string).text = .ok frame ∧
      decode "T" frame = .error (.corrupt "payload exceeds size limit") := by
  have read : Json.readText (Json.string string).text = .ok (.string string) :=
    Json.readText_text (.string string)
  have encoded : encode "T" (Json.string string).text = .ok _ :=
    encodeWith_ok_iff.2 ⟨by decide, by decide, _, read, rfl⟩
  have decoded := decode_encoded Zlib.store_restores encoded read
  have length := Json.length_le_quotedBytes string
  have bytes : Utf8.encode (Json.string string).text = Json.quotedBytes string :=
    Json.encode_text (.string string)
  rw [if_neg (by rw [bytes]; omega)] at decoded
  exact ⟨_, encoded, decoded⟩

/-- Not every frame that was encoded is decoded. -/
theorem long_string_undecodable :
    ∃ frame, encode "T" (Json.string (String.ofList (List.replicate greatestPayload 'a'))).text
        = .ok frame ∧
      decode "T" frame = .error (.corrupt "payload exceeds size limit") := by
  refine decode_long_string (Nat.le_of_eq ?_)
  rw [String.toList_ofList, List.length_replicate]

end EngineBridge.Frame
