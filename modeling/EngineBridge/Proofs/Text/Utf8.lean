import EngineBridge.Text.Utf8
/-!
# Reading back what was written in UTF-8

`decode_encode` is the round trip of a text, and `decodeLossy_encode` the one of the reading
that never fails.  The automaton is followed over the bytes of one character: a lead byte
begins the sequence that fits the character's size, and every later byte is accepted and adds
six bits.  The other way, `decode_ok_iff`: a sequence that is read to its end is that of its
character, so nothing but the UTF-8 form of a text is read as the text.
-/

namespace EngineBridge.Utf8

/-! ## Bytes of a text -/

theorem encode_eq (text : String) : encode text = text.toList.flatMap encodeChar := by
  have bytes : text.toByteArray = text.toList.utf8Encode := String.utf8Encode_toList.symm
  rw [encode, String.toUTF8_eq_toByteArray, bytes, List.utf8Encode, List.data_toByteArray]
  rfl

@[simp] theorem encode_ofList (chars : List Char) :
    encode (String.ofList chars) = chars.flatMap encodeChar := by
  rw [encode_eq, String.toList_ofList]

@[simp] theorem encode_append (a b : String) : encode (a ++ b) = encode a ++ encode b := by
  simp [encode_eq]

/-! ## One character -/

/-- The code points of characters leave the surrogates out. -/
theorem toNat_valid (c : Char) : c.toNat < 0xD800 ∨ 0xDFFF < c.toNat ∧ c.toNat < 0x110000 :=
  c.valid

theorem encodeChar_one {c : Char} (h : c.toNat ≤ 0x7F) :
    encodeChar c = [UInt8.ofNat c.toNat] := by
  simp [encodeChar, String.utf8EncodeChar, h]

theorem encodeChar_two {c : Char} (low : 0x7F < c.toNat) (high : c.toNat ≤ 0x7FF) :
    encodeChar c =
      [UInt8.ofNat (c.toNat / 64 % 32 + 0xC0), UInt8.ofNat (c.toNat % 64 + 0x80)] := by
  have : ¬ c.toNat ≤ 0x7F := by omega
  simp only [encodeChar, String.utf8EncodeChar, Char.toNat_val, this, high, if_true, if_false]

theorem encodeChar_three {c : Char} (low : 0x7FF < c.toNat) (high : c.toNat ≤ 0xFFFF) :
    encodeChar c =
      [UInt8.ofNat (c.toNat / 4096 % 16 + 0xE0), UInt8.ofNat (c.toNat / 64 % 64 + 0x80),
        UInt8.ofNat (c.toNat % 64 + 0x80)] := by
  have : ¬ c.toNat ≤ 0x7F := by omega
  have : ¬ c.toNat ≤ 0x7FF := by omega
  simp only [encodeChar, String.utf8EncodeChar, Char.toNat_val, *, if_true, if_false]

theorem encodeChar_four {c : Char} (low : 0xFFFF < c.toNat) :
    encodeChar c =
      [UInt8.ofNat (c.toNat / 262144 % 8 + 0xF0), UInt8.ofNat (c.toNat / 4096 % 64 + 0x80),
        UInt8.ofNat (c.toNat / 64 % 64 + 0x80), UInt8.ofNat (c.toNat % 64 + 0x80)] := by
  have : ¬ c.toNat ≤ 0x7F := by omega
  have : ¬ c.toNat ≤ 0x7FF := by omega
  have : ¬ c.toNat ≤ 0xFFFF := by omega
  simp only [encodeChar, String.utf8EncodeChar, Char.toNat_val, *, if_false]

/-- A byte of a character is the character itself, or lies above all characters of one byte. -/
theorem mem_encodeChar {c : Char} {b : UInt8} (h : b ∈ encodeChar c) :
    b.toNat = c.toNat ∨ 0x80 ≤ b.toNat := by
  by_cases one : c.toNat ≤ 0x7F
  · rw [encodeChar_one one, List.mem_singleton] at h
    left
    rw [h, UInt8.toNat_ofNat']
    omega
  · right
    by_cases two : c.toNat ≤ 0x7FF
    · rw [encodeChar_two (by omega) two] at h
      simp only [List.mem_cons, List.not_mem_nil, or_false] at h
      rcases h with rfl | rfl <;> rw [UInt8.toNat_ofNat'] <;> omega
    · by_cases three : c.toNat ≤ 0xFFFF
      · rw [encodeChar_three (by omega) three] at h
        simp only [List.mem_cons, List.not_mem_nil, or_false] at h
        rcases h with rfl | rfl | rfl <;> rw [UInt8.toNat_ofNat'] <;> omega
      · rw [encodeChar_four (by omega)] at h
        simp only [List.mem_cons, List.not_mem_nil, or_false] at h
        rcases h with rfl | rfl | rfl | rfl <;> rw [UInt8.toNat_ofNat'] <;> omega

/-- Only a nul has a zero byte. -/
theorem zero_mem_encode_iff {text : String} : 0 ∈ encode text ↔ '\x00' ∈ text.toList := by
  rw [encode_eq, List.mem_flatMap]
  constructor
  · rintro ⟨c, present, zero⟩
    rcases mem_encodeChar zero with same | above
    · have : c = '\x00' := Char.toNat_inj.1 same.symm
      rwa [← this]
    · simp at above
  · intro present
    exact ⟨_, present, by decide⟩

/-! ## The automaton over one character -/

theorem toNat_byte {n : Nat} (h : n < 256) : (UInt8.ofNat n).toNat = n := by
  rw [UInt8.toNat_ofNat']
  omega

theorem lead_one {b : UInt8} (h : b.toNat < 0x80) : lead b = .ascii (Char.ofNat b.toNat) := by
  have : b < 0x80 := UInt8.lt_iff_toNat_lt.2 h
  simp [lead, this]

theorem lead_two {b : UInt8} (low : 0xC2 ≤ b.toNat) (high : b.toNat < 0xE0) :
    lead b = .begins ⟨b.toNat - 0xC0, 1, 1, 0x80, 0xBF⟩ := by
  simp only [lead, UInt8.lt_iff_toNat_lt, UInt8.reduceToNat]
  rw [if_neg (by omega), if_neg (by omega), if_pos high]

theorem lead_three {b : UInt8} (low : 0xE0 ≤ b.toNat) (high : b.toNat < 0xF0) :
    lead b = .begins ⟨b.toNat - 0xE0, 1, 2, if b.toNat = 0xE0 then 0xA0 else 0x80,
      if b.toNat = 0xED then 0x9F else 0xBF⟩ := by
  simp only [lead, UInt8.lt_iff_toNat_lt, UInt8.reduceToNat, ← UInt8.toNat_inj]
  rw [if_neg (by omega), if_neg (by omega), if_neg (by omega), if_pos high]

theorem lead_four {b : UInt8} (low : 0xF0 ≤ b.toNat) (high : b.toNat < 0xF5) :
    lead b = .begins ⟨b.toNat - 0xF0, 1, 3, if b.toNat = 0xF0 then 0x90 else 0x80,
      if b.toNat = 0xF4 then 0x8F else 0xBF⟩ := by
  simp only [lead, UInt8.lt_iff_toNat_lt, UInt8.reduceToNat, ← UInt8.toNat_inj]
  rw [if_neg (by omega), if_neg (by omega), if_neg (by omega), if_neg (by omega), if_pos high]

theorem accepts_iff (s : Begun) (b : UInt8) :
    s.accepts b = true ↔ s.low.toNat ≤ b.toNat ∧ b.toNat ≤ s.high.toNat := by
  simp [Begun.accepts, UInt8.le_iff_toNat_le]

/-- A byte inside a sequence, not the last one. -/
theorem decodeFrom_inside {s : Begun} {b : UInt8} (out : String) (start : Nat)
    (rest : List UInt8) (accepted : s.accepts b = true) (more : 1 < s.missing) :
    decodeFrom out start (some s) (b :: rest) = decodeFrom out start (some (s.next b)) rest := by
  rw [decodeFrom, if_pos accepted, if_neg (by omega)]

theorem decodeFrom_last {s : Begun} {b : UInt8} (out : String) (start : Nat)
    (rest : List UInt8) (accepted : s.accepts b = true) (last : s.missing ≤ 1) :
    decodeFrom out start (some s) (b :: rest) =
      decodeFrom (out.push (Char.ofNat (s.valueWith b))) (start + s.taken + 1) none rest := by
  rw [decodeFrom, if_pos accepted, if_pos last]

theorem decodeFrom_begins {s : Begun} {b : UInt8} (out : String) (start : Nat)
    (rest : List UInt8) (begins : lead b = .begins s) :
    decodeFrom out start none (b :: rest) = decodeFrom out start (some s) rest := by
  rw [decodeFrom, begins]

theorem valueWith_def (s : Begun) (b : UInt8) :
    s.valueWith b = s.value * 64 + (b.toNat - 0x80) := rfl

/-- The character that a sequence and its last byte make. -/
theorem valueWith_eq (c : Char) {s : Begun} {b : UInt8}
    (h : s.valueWith b = c.toNat) : Char.ofNat (s.valueWith b) = c := by
  rw [h, Char.ofNat_toNat]

theorem decodeFrom_two {c : Char} (low : 0x7F < c.toNat) (high : c.toNat ≤ 0x7FF)
    (out : String) (start : Nat) (rest : List UInt8) :
    decodeFrom out start none (encodeChar c ++ rest) =
      decodeFrom (out.push c) (start + (encodeChar c).length) none rest := by
  have byte₁ := @toNat_byte (c.toNat / 64 % 32 + 0xC0) (by omega)
  have byte₂ := @toNat_byte (c.toNat % 64 + 0x80) (by omega)
  rw [encodeChar_two low high, List.cons_append, List.singleton_append,
    decodeFrom_begins _ _ _ (lead_two (by omega) (by omega)),
    decodeFrom_last _ _ _ ?accepted (Nat.le_refl _), valueWith_eq c ?value]
  case value => simp only [valueWith_def, byte₁, byte₂]; omega
  case accepted =>
    rw [accepts_iff]
    simp only [byte₂, UInt8.reduceToNat]
    omega
  simp only [List.length_cons, List.length_nil, Nat.zero_add, Nat.reduceAdd, Nat.add_assoc]

theorem decodeFrom_three {c : Char} (low : 0x7FF < c.toNat) (high : c.toNat ≤ 0xFFFF)
    (out : String) (start : Nat) (rest : List UInt8) :
    decodeFrom out start none (encodeChar c ++ rest) =
      decodeFrom (out.push c) (start + (encodeChar c).length) none rest := by
  have valid := toNat_valid c
  have byte₁ := @toNat_byte (c.toNat / 4096 % 16 + 0xE0) (by omega)
  have byte₂ := @toNat_byte (c.toNat / 64 % 64 + 0x80) (by omega)
  have byte₃ := @toNat_byte (c.toNat % 64 + 0x80) (by omega)
  rw [encodeChar_three low high, List.cons_append, List.cons_append, List.singleton_append,
    decodeFrom_begins _ _ _ (lead_three (by omega) (by omega)),
    decodeFrom_inside _ _ _ ?second (Nat.lt_succ_self 1),
    decodeFrom_last _ _ _ ?third (Nat.le_refl _), valueWith_eq c ?value]
  case value => simp only [Begun.next, valueWith_def, byte₁, byte₂, byte₃]; omega
  case second =>
    rw [accepts_iff]
    simp only [byte₁, byte₂]
    split <;> split <;> simp only [UInt8.reduceToNat] <;> omega
  case third =>
    rw [accepts_iff]
    simp only [Begun.next, byte₃, UInt8.reduceToNat]
    omega
  simp only [Begun.next, List.length_cons, List.length_nil, Nat.zero_add, Nat.reduceAdd,
    Nat.add_assoc]

theorem decodeFrom_four {c : Char} (low : 0xFFFF < c.toNat)
    (out : String) (start : Nat) (rest : List UInt8) :
    decodeFrom out start none (encodeChar c ++ rest) =
      decodeFrom (out.push c) (start + (encodeChar c).length) none rest := by
  have valid := toNat_valid c
  have byte₁ := @toNat_byte (c.toNat / 262144 % 8 + 0xF0) (by omega)
  have byte₂ := @toNat_byte (c.toNat / 4096 % 64 + 0x80) (by omega)
  have byte₃ := @toNat_byte (c.toNat / 64 % 64 + 0x80) (by omega)
  have byte₄ := @toNat_byte (c.toNat % 64 + 0x80) (by omega)
  rw [encodeChar_four low, List.cons_append, List.cons_append, List.cons_append,
    List.singleton_append, decodeFrom_begins _ _ _ (lead_four (by omega) (by omega)),
    decodeFrom_inside _ _ _ ?second (Nat.lt_of_sub_eq_succ rfl),
    decodeFrom_inside _ _ _ ?third (Nat.lt_succ_self 1),
    decodeFrom_last _ _ _ ?fourth (Nat.le_refl _), valueWith_eq c ?value]
  case value => simp only [Begun.next, valueWith_def, byte₁, byte₂, byte₃, byte₄]; omega
  -- which second bytes are accepted depends on the first: no long forms, no surrogates
  case second =>
    rw [accepts_iff]
    simp only [byte₁, byte₂]
    split <;> split <;> simp only [UInt8.reduceToNat] <;> omega
  case third =>
    rw [accepts_iff]
    simp only [Begun.next, byte₃, UInt8.reduceToNat]
    omega
  case fourth =>
    rw [accepts_iff]
    simp only [Begun.next, byte₄, UInt8.reduceToNat]
    omega
  simp only [Begun.next, List.length_cons, List.length_nil, Nat.zero_add, Nat.reduceAdd,
    Nat.add_assoc]

/-- The bytes of a character are read as the character. -/
theorem decodeFrom_encodeChar (c : Char) (out : String) (start : Nat) (rest : List UInt8) :
    decodeFrom out start none (encodeChar c ++ rest) =
      decodeFrom (out.push c) (start + (encodeChar c).length) none rest := by
  by_cases one : c.toNat ≤ 0x7F
  · have byte := @toNat_byte c.toNat (by omega)
    have first := lead_one (b := UInt8.ofNat c.toNat) (by omega)
    rw [byte, Char.ofNat_toNat] at first
    rw [encodeChar_one one, List.singleton_append, decodeFrom, first]
    rfl
  by_cases two : c.toNat ≤ 0x7FF
  · exact decodeFrom_two (by omega) two out start rest
  by_cases three : c.toNat ≤ 0xFFFF
  · exact decodeFrom_three (by omega) three out start rest
  · exact decodeFrom_four (by omega) out start rest

/-! ## What is read as a text -/

theorem toNat_ofNat {n : Nat} (valid : n < 0xD800 ∨ 0xDFFF < n ∧ n < 0x110000) :
    (Char.ofNat n).toNat = n := by
  rw [Char.ofNat, dif_pos valid]
  rfl

theorem ofNat_eq {n : Nat} {b : UInt8} (same : n = b.toNat) : UInt8.ofNat n = b := by
  rw [same, UInt8.ofNat_toNat]

/-- A byte that begins a longer sequence begins one of two, three or four bytes. -/
theorem lead_begins {b : UInt8} {s : Begun} (begins : lead b = .begins s) :
    (0xC2 ≤ b.toNat ∧ b.toNat < 0xE0 ∧ s = ⟨b.toNat - 0xC0, 1, 1, 0x80, 0xBF⟩) ∨
      (0xE0 ≤ b.toNat ∧ b.toNat < 0xF0 ∧ s = ⟨b.toNat - 0xE0, 1, 2,
        if b.toNat = 0xE0 then 0xA0 else 0x80, if b.toNat = 0xED then 0x9F else 0xBF⟩) ∨
      (0xF0 ≤ b.toNat ∧ b.toNat < 0xF5 ∧ s = ⟨b.toNat - 0xF0, 1, 3,
        if b.toNat = 0xF0 then 0x90 else 0x80, if b.toNat = 0xF4 then 0x8F else 0xBF⟩) := by
  by_cases two : 0xC2 ≤ b.toNat ∧ b.toNat < 0xE0
  · rw [lead_two two.1 two.2, Lead.begins.injEq] at begins
    exact .inl ⟨two.1, two.2, begins.symm⟩
  by_cases three : 0xE0 ≤ b.toNat ∧ b.toNat < 0xF0
  · rw [lead_three three.1 three.2, Lead.begins.injEq] at begins
    exact .inr (.inl ⟨three.1, three.2, begins.symm⟩)
  by_cases four : 0xF0 ≤ b.toNat ∧ b.toNat < 0xF5
  · rw [lead_four four.1 four.2, Lead.begins.injEq] at begins
    exact .inr (.inr ⟨four.1, four.2, begins.symm⟩)
  -- all other bytes are characters of their own, or wrong
  simp only [lead, UInt8.lt_iff_toNat_lt, UInt8.reduceToNat] at begins
  split at begins
  · cases begins
  · split at begins
    · cases begins
    · rw [if_neg (by omega), if_neg (by omega), if_neg (by omega)] at begins
      cases begins

/-- A byte that is a character is the only one of the character. -/
theorem encodeChar_of_lead {b : UInt8} {c : Char} (ascii : lead b = .ascii c) :
    encodeChar c = [b] := by
  by_cases small : b.toNat < 0x80
  · rw [lead_one small, Lead.ascii.injEq] at ascii
    have value := @toNat_ofNat b.toNat (by omega)
    rw [← ascii, encodeChar_one (by omega), value, UInt8.ofNat_toNat]
  · simp only [lead, UInt8.lt_iff_toNat_lt, UInt8.reduceToNat, if_neg small] at ascii
    repeat' split at ascii
    all_goals cases ascii

/-- The bytes that were read of a sequence. -/
inductive Begun.Follows : Begun → List UInt8 → Prop where
  | begins {b : UInt8} {s : Begun} (begins : lead b = .begins s) : Follows s [b]
  | next {s : Begun} {bytes : List UInt8} {b : UInt8} (follows : Follows s bytes)
    (accepted : s.accepts b = true) (more : 1 < s.missing) : Follows (s.next b) (bytes ++ [b])

/-- A sequence has at least one byte, and at most four with those that are missing. -/
theorem Begun.Follows.length {s : Begun} {bytes : List UInt8} (follows : s.Follows bytes) :
    1 ≤ bytes.length ∧ s.missing + bytes.length ≤ 4 := by
  induction follows with
  | begins begins =>
    rcases lead_begins begins with ⟨-, -, rfl⟩ | ⟨-, -, rfl⟩ | ⟨-, -, rfl⟩ <;> simp
  | next follows accepted more ih =>
    simp only [Begun.next, List.length_append, List.length_singleton]
    omega

/-- Two bytes of a sequence are those of their character. -/
theorem encodeChar_two_bytes {a b : UInt8} (low : 0xC2 ≤ a.toNat) (high : a.toNat < 0xE0)
    (second : 0x80 ≤ b.toNat ∧ b.toNat ≤ 0xBF) :
    encodeChar (Char.ofNat ((a.toNat - 0xC0) * 64 + (b.toNat - 0x80))) = [a, b] := by
  have value := @toNat_ofNat ((a.toNat - 0xC0) * 64 + (b.toNat - 0x80)) (by omega)
  rw [encodeChar_two (by omega) (by omega), value, ofNat_eq (b := a) (by omega),
    ofNat_eq (b := b) (by omega)]

/-- Three bytes of a sequence are those of their character: no long form and no surrogate. -/
theorem encodeChar_three_bytes {a b c : UInt8} (low : 0xE0 ≤ a.toNat) (high : a.toNat < 0xF0)
    (second : 0x80 ≤ b.toNat ∧ b.toNat ≤ 0xBF) (notLong : a.toNat = 0xE0 → 0xA0 ≤ b.toNat)
    (noSurrogate : a.toNat = 0xED → b.toNat ≤ 0x9F) (third : 0x80 ≤ c.toNat ∧ c.toNat ≤ 0xBF) :
    encodeChar (Char.ofNat (((a.toNat - 0xE0) * 64 + (b.toNat - 0x80)) * 64 + (c.toNat - 0x80))) =
      [a, b, c] := by
  have value := @toNat_ofNat
    (((a.toNat - 0xE0) * 64 + (b.toNat - 0x80)) * 64 + (c.toNat - 0x80)) (by omega)
  rw [encodeChar_three (by omega) (by omega), value, ofNat_eq (b := a) (by omega),
    ofNat_eq (b := b) (by omega), ofNat_eq (b := c) (by omega)]

/-- Four bytes of a sequence are those of their character: no long form and no code point that is
too great. -/
theorem encodeChar_four_bytes {a b c d : UInt8} (low : 0xF0 ≤ a.toNat) (high : a.toNat < 0xF5)
    (second : 0x80 ≤ b.toNat ∧ b.toNat ≤ 0xBF) (notLong : a.toNat = 0xF0 → 0x90 ≤ b.toNat)
    (notGreat : a.toNat = 0xF4 → b.toNat ≤ 0x8F) (third : 0x80 ≤ c.toNat ∧ c.toNat ≤ 0xBF)
    (fourth : 0x80 ≤ d.toNat ∧ d.toNat ≤ 0xBF) :
    encodeChar (Char.ofNat ((((a.toNat - 0xF0) * 64 + (b.toNat - 0x80)) * 64
      + (c.toNat - 0x80)) * 64 + (d.toNat - 0x80))) = [a, b, c, d] := by
  have value := @toNat_ofNat ((((a.toNat - 0xF0) * 64 + (b.toNat - 0x80)) * 64
    + (c.toNat - 0x80)) * 64 + (d.toNat - 0x80)) (by omega)
  rw [encodeChar_four (by omega), value, ofNat_eq (b := a) (by omega),
    ofNat_eq (b := b) (by omega), ofNat_eq (b := c) (by omega), ofNat_eq (b := d) (by omega)]

/-- The last byte of a sequence makes a character of whose bytes the sequence is. -/
theorem Begun.Follows.last {s : Begun} {bytes : List UInt8} {b : UInt8} (follows : s.Follows bytes)
    (accepted : s.accepts b = true) (last : s.missing ≤ 1) :
    encodeChar (Char.ofNat (s.valueWith b)) = bytes ++ [b] := by
  rw [accepts_iff] at accepted
  -- the number of bytes that are missing says how far back the first one is
  cases follows with
  | begins begins =>
    rcases lead_begins begins with ⟨low, high, rfl⟩ | ⟨-, -, rfl⟩ | ⟨-, -, rfl⟩
    · exact encodeChar_two_bytes low high accepted
    · simp at last
    · simp at last
  | next follows inside more =>
    rw [accepts_iff] at inside
    have short := follows.length
    cases follows with
    | begins begins =>
      rcases lead_begins begins with ⟨-, -, rfl⟩ | ⟨low, high, rfl⟩ | ⟨-, -, rfl⟩
      · simp at more
      · refine encodeChar_three_bytes low high ?_ ?_ ?_ accepted
        all_goals
          dsimp only at inside
          split at inside <;> split at inside <;> simp only [UInt8.reduceToNat] at inside <;> omega
      · simp [Begun.next] at last
    | next follows' inside' more' =>
      rw [accepts_iff] at inside'
      cases follows' with
      | begins begins =>
        rcases lead_begins begins with ⟨-, -, rfl⟩ | ⟨-, -, rfl⟩ | ⟨low, high, rfl⟩
        · simp at more'
        · simp [Begun.next] at more
        · refine encodeChar_four_bytes low high ?_ ?_ ?_ inside accepted
          all_goals
            dsimp only at inside'
            split at inside' <;> split at inside' <;>
              simp only [UInt8.reduceToNat] at inside' <;> omega
      | next follows'' inside'' more'' =>
        have long := follows''.length
        simp only [List.length_append, List.length_singleton] at short
        omega

/-! ## Whole texts -/

theorem decodeFrom_flatMap (chars : List Char) (out : String) (start : Nat) :
    decodeFrom out start none (chars.flatMap encodeChar) =
      .ok (out ++ String.ofList chars) := by
  induction chars generalizing out start with
  | nil => simp [decodeFrom]
  | cons c chars ih =>
    rw [List.flatMap_cons, decodeFrom_encodeChar, ih]
    congr 1
    apply String.toList_inj.1
    simp

/-- The bytes of a text are read as the text. -/
@[simp] theorem decode_encode (text : String) : decode (encode text) = .ok text := by
  rw [decode, encode_eq, decodeFrom_flatMap]
  simp

/-- The bytes that were read of a sequence, if one was begun. -/
def Awaits : Option Begun → List UInt8 → Prop
  | none, before => before = []
  | some s, before => s.Follows before

/-- A character is read in front of others when all its bytes have been. -/
theorem decoded_push {c : Char} {out text : String} {before rest : List UInt8}
    (bytes : encodeChar c = before)
    (decoded : ∃ chars, text = out.push c ++ String.ofList chars ∧
      [] ++ rest = chars.flatMap encodeChar) :
    ∃ chars, text = out ++ String.ofList chars ∧ before ++ rest = chars.flatMap encodeChar := by
  obtain ⟨chars, is, follow⟩ := decoded
  refine ⟨c :: chars, ?_, ?_⟩
  · rw [is, ← String.toList_inj]
    simp
  · rw [List.flatMap_cons, ← follow, bytes, List.nil_append]

/-- What is read from some bytes, after those of a sequence that was begun, has all these bytes. -/
theorem eq_of_decodeFrom {out text : String} {start : Nat} {state : Option Begun}
    {before bytes : List UInt8} (read : decodeFrom out start state bytes = .ok text)
    (awaits : Awaits state before) :
    ∃ chars, text = out ++ String.ofList chars ∧ before ++ bytes = chars.flatMap encodeChar := by
  induction bytes generalizing out start state before with
  | nil =>
    cases state with
    | none =>
      cases awaits
      cases read
      exact ⟨[], by simp, rfl⟩
    | some s => cases read
  | cons b rest ih =>
    cases state with
    | none =>
      cases awaits
      rw [decodeFrom] at read
      cases begun : lead b with
      | ascii c =>
        rw [begun] at read
        have whole := decoded_push (encodeChar_of_lead begun) (ih read rfl)
        exact whole
      | begins s =>
        rw [begun] at read
        exact ih read (Begun.Follows.begins begun)
      | wrong => simp [begun] at read
    | some s =>
      rw [decodeFrom] at read
      rw [List.append_cons]
      split at read
      next accepted =>
        split at read
        next last => exact decoded_push (Begun.Follows.last awaits accepted last) (ih read rfl)
        next more => exact ih read (Begun.Follows.next awaits accepted (by omega))
      next => cases read

/-- **Bytes are read as a text exactly if they are its UTF-8 form.** -/
theorem decode_ok_iff {bytes : List UInt8} {text : String} :
    decode bytes = .ok text ↔ bytes = encode text := by
  constructor
  · intro read
    obtain ⟨chars, is, bytes⟩ := eq_of_decodeFrom read rfl
    rw [is, String.empty_append, encode_ofList]
    exact bytes
  · rintro rfl
    exact decode_encode text

theorem decodeLossyFrom_of_decodeFrom {out text : String} {start : Nat} {state : Option Begun}
    {bytes : List UInt8} (read : decodeFrom out start state bytes = .ok text) :
    decodeLossyFrom out state bytes = text := by
  -- both readers go through the same states until a byte is refused
  induction bytes generalizing out start state with
  | nil =>
    cases state with
    | none => simpa [decodeFrom, decodeLossyFrom] using read
    | some s => simp [decodeFrom] at read
  | cons b rest ih =>
    cases state with
    | none =>
      rw [decodeFrom] at read
      rw [decodeLossyFrom]
      cases begun : lead b with
      | ascii c =>
        rw [begun] at read
        exact ih read
      | begins s =>
        rw [begun] at read
        exact ih read
      | wrong => simp [begun] at read
    | some s =>
      rw [decodeFrom] at read
      rw [decodeLossyFrom]
      split at read
      next accepted =>
        rw [if_pos accepted]
        split at read
        next last =>
          rw [if_pos last]
          exact ih read
        next more =>
          rw [if_neg more]
          exact ih read
      next => cases read

@[simp] theorem decodeLossy_encode (text : String) : decodeLossy (encode text) = text :=
  decodeLossyFrom_of_decodeFrom (decode_encode text)

end EngineBridge.Utf8
