import EngineBridge.Proofs.Frame.RoundTrip
import EngineBridge.Proofs.Zlib.Grammar
/-!
# Decoding reads the grammar

`IsFrame tag frame value` says which byte strings are frames of a tag, to the last byte, and which
JSON they hold.  What is decoded under a tag are the byte strings that begin with one of its frames
(`decode_ok_iff`); all that follows from the grammar of frames is assembled in
`decodes_exactly_frames`.

`decodeSlices` decodes by places and slices of the byte string, and answers nothing where one of
them is out of range.
-/

namespace EngineBridge.Frame

/-! ## The grammar of frames -/

/-- Magic number, length of the tag with its highest byte first, tag, and a stream that holds
JSON. -/
inductive IsFrame (tag : String) : List UInt8 → Json → Prop where
  | frame {high low : UInt8} {stream payload : List UInt8} {value : Json}
    (length : high.toNat * 256 + low.toNat = (Utf8.encode tag).length)
    (holds : Zlib.Holds stream payload) (fits : payload.length ≤ greatestPayload)
    (json : Json.read payload = .ok value) :
    IsFrame tag (magic ++ high :: low :: (Utf8.encode tag ++ stream)) value

/-- The bytes from one place up to another, if these are in order and in range. -/
def slice? (bytes : List UInt8) (start stop : Nat) : Option (List UInt8) :=
  if start ≤ stop ∧ stop ≤ bytes.length then some ((bytes.take stop).drop start) else none

/-- `decode` by places in the byte string. -/
def decodeSlices (tag : String) (bytes : List UInt8) : Option (Except EngineError String) :=
  if tag = "" then some (.error (.invalidArgument "empty type tag"))
  else if bytes.length < headerLength then
    some (.error (.corrupt ("frame is " ++ toString bytes.length
      ++ " bytes, shorter than the 6-byte header")))
  else do
    let front ← slice? bytes 0 magic.length
    if front ≠ magic then some (.error (.corrupt "bad magic"))
    else
      let high ← bytes[4]?
      let low ← bytes[5]?
      let length := high.toNat * 256 + low.toNat
      let body ← slice? bytes headerLength bytes.length
      if body.length < length then some (.error (.corrupt "truncated type tag"))
      else
        let held ← slice? body 0 length
        let stream ← slice? body length body.length
        if held ≠ Utf8.encode tag then
          some (.error (.corrupt
            ("frame holds " ++ Utf8.decodeLossy held ++ ", expected " ++ tag)))
        else some (inflate stream >>= canonical)

variable {tag text : String} {bytes : List UInt8}

/-! ## Success of each part -/

theorem splitTag_ok_iff {length : Nat} {body held stream : List UInt8} :
    splitTag length body = .ok (held, stream) ↔ held.length = length ∧ body = held ++ stream := by
  rw [splitTag]
  constructor
  · intro h
    split at h
    · cases h
    · rename_i enough
      rw [List.splitAt_eq] at h
      cases h
      exact ⟨by rw [List.length_take]; omega, (List.take_append_drop _ _).symm⟩
  · rintro ⟨rfl, rfl⟩
    rw [if_neg (by rw [List.length_append]; omega), List.splitAt_eq, List.take_left, List.drop_left]

theorem inflate_ok_iff {bytes payload : List UInt8} :
    inflate bytes = .ok payload ↔
      payload.length ≤ greatestPayload ∧
        ∃ stream rest, bytes = stream ++ rest ∧ Zlib.Holds stream payload := by
  have whole : inflate bytes = .ok payload ↔
      ∃ rest, Zlib.inflate greatestPayload bytes = .ok (payload, rest) := by
    rw [inflate]
    constructor
    · intro h
      split at h
      · rename_i rest is
        cases h
        exact ⟨rest, is⟩
      · cases h
      · cases h
      · split at h <;> cases h
    · rintro ⟨rest, is⟩
      rw [is]
  simp only [whole, Zlib.inflate_ok_iff]
  constructor
  · rintro ⟨rest, fits, stream, is, holds⟩
    exact ⟨fits, stream, rest, is, holds⟩
  · rintro ⟨fits, stream, rest, is, holds⟩
    exact ⟨rest, fits, stream, is, holds⟩

theorem canonical_ok_iff {payload : List UInt8} :
    canonical payload = .ok text ↔ ∃ value, Json.read payload = .ok value ∧ text = value.text := by
  rw [canonical]
  cases Json.read payload with
  | error error => simp
  | ok value => simp [eq_comm]

/-! ## Whole frames -/

/-- What is decoded begins with a frame, and whatever begins with one is decoded. -/
theorem decode_ok_iff :
    decode tag bytes = .ok text ↔ tag ≠ "" ∧ ∃ frame rest value, bytes = frame ++ rest ∧
      IsFrame tag frame value ∧ text = value.text := by
  constructor
  · intro h
    rw [decode.eq_def] at h
    split at h
    · cases h
    rename_i nonempty
    split at h
    · rename_i a b c d high low body
      split at h
      · cases h
      rename_i isMagic
      obtain ⟨⟨held, further⟩, split, h⟩ := bind_ok_iff.1 h
      dsimp only at h
      split at h
      · cases h
      rename_i same
      obtain ⟨payload, inflated, h⟩ := bind_ok_iff.1 h
      obtain ⟨value, json, rfl⟩ := canonical_ok_iff.1 h
      obtain ⟨fits, stream, rest, rfl, holds⟩ := inflate_ok_iff.1 inflated
      obtain ⟨length, rfl⟩ := splitTag_ok_iff.1 split
      obtain rfl := not_not.1 same
      refine ⟨nonempty, _, rest, value, ?_, .frame length.symm holds fits json, rfl⟩
      rw [← not_not.1 isMagic]
      simp
    · cases h
  · rintro ⟨nonempty, frame, rest, value, rfl, isFrame, rfl⟩
    obtain @⟨high, low, stream, payload, value, length, holds, fits, json⟩ := isFrame
    simp only [List.append_assoc, List.cons_append]
    rw [decode_parts nonempty length, if_neg (not_not_intro rfl)]
    exact bind_ok_iff.2 ⟨payload, inflate_ok_iff.2 ⟨fits, stream, rest, rfl, holds⟩,
      canonical_ok_iff.2 ⟨value, json, rfl⟩⟩

/-- The tag of a frame can be read off it. -/
theorem IsFrame.tag_unique {other : String} {frame frame' rest rest' : List UInt8}
    {value value' : Json} (h : IsFrame tag frame value) (h' : IsFrame other frame' value')
    (same : frame ++ rest = frame' ++ rest') : tag = other := by
  obtain @⟨high, low, stream, payload, _, length, holds, fits, json⟩ := h
  obtain @⟨high', low', stream', payload', _, length', holds', fits', json'⟩ := h'
  simp only [List.append_assoc, List.cons_append, List.append_cancel_left_eq, List.cons.injEq]
    at same
  obtain ⟨rfl, rfl, same⟩ := same
  obtain ⟨same, -⟩ := List.append_inj same (length.symm.trans length')
  have read := Utf8.decode_encode tag
  rw [same, Utf8.decode_encode] at read
  exact (Except.ok.inj read).symm

/-! ## Places -/

theorem slice?_to (bytes : List UInt8) {stop : Nat} (inside : stop ≤ bytes.length) :
    slice? bytes 0 stop = some (bytes.take stop) := by
  rw [slice?, if_pos ⟨Nat.zero_le _, inside⟩, List.drop_zero]

theorem slice?_from (bytes : List UInt8) {start : Nat} (inside : start ≤ bytes.length) :
    slice? bytes start bytes.length = some (bytes.drop start) := by
  rw [slice?, if_pos ⟨inside, Nat.le_refl _⟩, List.take_length]

theorem decode_short (nonempty : tag ≠ "") (short : bytes.length < headerLength) :
    decode tag bytes = .error (.corrupt ("frame is " ++ toString bytes.length
      ++ " bytes, shorter than the 6-byte header")) := by
  rw [decode.eq_def, if_neg nonempty]
  split
  · simp only [headerLength, List.length_cons] at short
    omega
  · rfl

theorem exists_header (enough : headerLength ≤ bytes.length) :
    ∃ a b c d high low body, bytes = a :: b :: c :: d :: high :: low :: body := by
  match bytes, enough with
  | a :: b :: c :: d :: high :: low :: body, _ => exact ⟨a, b, c, d, high, low, body, rfl⟩

/-- **No place is out of range.** -/
theorem decodeSlices_eq (tag : String) (bytes : List UInt8) :
    decodeSlices tag bytes = some (decode tag bytes) := by
  rw [decodeSlices]
  by_cases empty : tag = ""
  · rw [if_pos empty, decode.eq_def, if_pos empty]
  rw [if_neg empty]
  by_cases short : bytes.length < headerLength
  · rw [if_pos short, decode_short empty short]
  rw [if_neg short]
  have magicInside : magic.length ≤ bytes.length :=
    Nat.le_trans (by decide) (Nat.le_of_not_lt short)
  obtain ⟨a, b, c, d, high, low, body, rfl⟩ := exists_header (Nat.le_of_not_lt short)
  have front : slice? (a :: b :: c :: d :: high :: low :: body) 0 magic.length
      = some [a, b, c, d] := slice?_to _ magicInside
  have behind : slice? (a :: b :: c :: d :: high :: low :: body) headerLength
      (a :: b :: c :: d :: high :: low :: body).length = some body :=
    slice?_from _ (Nat.le_of_not_lt short)
  have highByte : (a :: b :: c :: d :: high :: low :: body)[4]? = some high := rfl
  have lowByte : (a :: b :: c :: d :: high :: low :: body)[5]? = some low := rfl
  rw [front, behind, highByte, lowByte, decode, if_neg empty]
  simp only [bind, Option.bind]
  split
  · rfl
  · rw [splitTag]
    by_cases truncated : body.length < high.toNat * 256 + low.toNat
    · rw [if_pos truncated, if_pos truncated]
      rfl
    · rw [if_neg truncated, if_neg truncated, slice?_to _ (Nat.le_of_not_lt truncated),
        slice?_from _ (Nat.le_of_not_lt truncated), List.splitAt_eq]
      simp only [Except.bind]
      split <;> rfl

/-! ## All together -/

/-- **Decoding accepts exactly the frames.**  Bytes are decoded under a tag if they begin with one of
its frames, to the canonical text of the JSON in it, and what stands behind that frame makes no
difference.  Otherwise they are corrupt; the empty tag is an invalid argument.  No place is out of
range, and no bytes are decoded under two tags. -/
theorem decodes_exactly_frames (tag : String) (bytes : List UInt8) :
    (∀ text, decode tag bytes = .ok text ↔ tag ≠ "" ∧ ∃ frame rest value,
        bytes = frame ++ rest ∧ IsFrame tag frame value ∧ text = value.text) ∧
      (tag = "" → decode tag bytes = .error (.invalidArgument "empty type tag")) ∧
      (tag ≠ "" →
        (∀ frame value, IsFrame tag frame value →
          ∀ rest, decode tag (frame ++ rest) = .ok value.text) ∧
        ((¬ ∃ frame rest value, bytes = frame ++ rest ∧ IsFrame tag frame value) →
          ∃ reason, decode tag bytes = .error (.corrupt reason))) ∧
      decodeSlices tag bytes = some (decode tag bytes) ∧
      ∀ other text text', decode tag bytes = .ok text → decode other bytes = .ok text' →
        tag = other := by
  refine ⟨fun text => decode_ok_iff, fun empty => ?_, fun nonempty => ⟨?_, fun noFrame => ?_⟩,
    decodeSlices_eq tag bytes, fun other text text' decoded decoded' => ?_⟩
  · rw [decode.eq_def, if_pos empty]
  · intro frame value isFrame rest
    exact decode_ok_iff.2 ⟨nonempty, frame, rest, value, rfl, isFrame, rfl⟩
  · cases is : decode tag bytes with
    | error error =>
      obtain ⟨reason, rfl⟩ := decode_error nonempty is
      exact ⟨reason, rfl⟩
    | ok text =>
      obtain ⟨-, frame, rest, value, is, isFrame, -⟩ := decode_ok_iff.1 is
      exact absurd ⟨frame, rest, value, is, isFrame⟩ noFrame
  · obtain ⟨-, frame, rest, value, is, isFrame, -⟩ := decode_ok_iff.1 decoded
    obtain ⟨-, frame', rest', value', is', isFrame', -⟩ := decode_ok_iff.1 decoded'
    exact isFrame.tag_unique isFrame' (is.symm.trans is')

/-- A frame with bytes behind it is decoded. -/
theorem decodes_exactly_frames_trailing :
    decode "T" (magic ++ 0 :: 1 :: (Utf8.encode "T" ++ Zlib.store (Utf8.encode "\x7b \x7d"))
      ++ [7, 7]) = .ok "\x7b\x7d" := by
  have isFrame : IsFrame "T"
      (magic ++ 0 :: 1 :: (Utf8.encode "T" ++ Zlib.store (Utf8.encode "\x7b \x7d"))) (.object []) :=
    .frame (by decide) (Zlib.holds_store _) (by decide) rfl
  obtain ⟨-, -, decoded, -⟩ := decodes_exactly_frames "T" []
  exact (decoded (by decide)).1 _ _ isFrame [7, 7]

end EngineBridge.Frame
