import Mathlib.Algebra.Group.Nat.Defs
import EngineBridge.Json.Record
import EngineBridge.Proofs.Basic
import EngineBridge.Proofs.Json.Spaced
/-!
# Reading back records

`readText_object`: a record is read back from the text of an object whose members fill it (`Fills`),
each being a member that the record does not have yet and whose value its reader takes
(`ReadsAs`).  The readers of strings, booleans, words, arrays of strings and of what may be `null`
take the values that were written for them.
-/

namespace EngineBridge.Json

/-! ## Readers of values -/

section Values

variable {α : Type} {readPresent : Bytes → Except Stop (α × Bytes)} {json : Json} {value : α}

/-- A reader takes the text of a value for something, wherever it stands. -/
def ReadsAs (readPresent : Bytes → Except Stop (α × Bytes)) (json : Json) (value : α) : Prop :=
  ∀ rest, EndsNumber rest → readPresent (bytes json ++ rest) = .ok (value, rest)

theorem readTextValue_string (text : String) : ReadsAs readTextValue (.string text) text := by
  intro rest _
  rw [bytes, quotedBytes_eq, List.cons_append, readTextValue, skipBlanks_quote]
  simp only [if_true, readString_quotedTail]

theorem readBoolValue_bool (value : Bool) : ReadsAs readBoolValue (.bool value) value := by
  intro rest _
  cases value <;> rfl

/-- The text of a word begins with a digit, and so it is neither negative nor `null`. -/
theorem bytes_ofNat_begins {n : Nat} (fits : n < 2 ^ 64) :
    ∃ b behind, bytes (.ofNat n) = b :: behind ∧ (digit? b).isSome ∧ isBlank b = false ∧
      b ≠ 0x2D ∧ b ≠ 0x6E := by
  have all : n ≤ greatestSignificand := by
    rw [greatestSignificand]
    omega
  have ends : EndsNumber [] := by simp [EndsNumber]
  obtain ⟨b, d, behind, is, digit⟩ := digit?_of_readNumber (readNumber_nat false all ends)
  obtain ⟨_, _, same, notBlank, -⟩ := beginsValue_digit digit behind
  obtain ⟨rfl, rfl⟩ := List.cons.inj same
  refine ⟨b, behind, (List.append_nil _).symm.trans is, by simp [digit], notBlank, ?_, ?_⟩
  · rintro rfl
    simp [digit?] at digit
  · rintro rfl
    simp [digit?] at digit

theorem readWordValue_ofNat (word : String) {n : Nat} (fits : n < 2 ^ 64) :
    ReadsAs (readWordValue word) (.ofNat n) n := by
  intro rest ends
  have all : n ≤ greatestSignificand := by
    rw [greatestSignificand]
    omega
  have read : readNumber false (bytes (.ofNat n) ++ rest) = .ok (.integer n, rest) :=
    readNumber_nat false all ends
  obtain ⟨b, behind, begins, digit, notBlank, notMinus, -⟩ := bytes_ofNat_begins fits
  rw [begins, List.cons_append] at read ⊢
  have blanks : skipBlanks (b :: (behind ++ rest)) = b :: (behind ++ rest) :=
    skipBlanks_of_notBlank notBlank
  rw [readWordValue, blanks]
  simp only [notMinus, if_false, digit, if_true, read]
  simp [bind, Except.bind, acceptWord]

/-- A value that is there is read; it does not begin as `null` does. -/
theorem ReadsAs.optional (reads : ReadsAs readPresent json value) {b : UInt8} {behind : Bytes}
    (begins : bytes json = b :: behind) (notBlank : isBlank b = false) (notNull : b ≠ 0x6E) :
    ReadsAs (readOptional readPresent) json (some value) := by
  intro rest ends
  have read := reads rest ends
  rw [begins, List.cons_append] at read ⊢
  have blanks : skipBlanks (b :: (behind ++ rest)) = b :: (behind ++ rest) :=
    skipBlanks_of_notBlank notBlank
  rw [readOptional, blanks]
  simp only [notNull, if_false, read]
  rfl

theorem readOptional_string (text : String) :
    ReadsAs (readOptional readTextValue) (.string text) (some text) := by
  have begins : bytes (.string text) = 0x22 :: quotedTail text := by
    rw [bytes, quotedBytes_eq]
  exact (readTextValue_string text).optional begins rfl (by decide)

theorem readOptional_bool (value : Bool) :
    ReadsAs (readOptional readBoolValue) (.bool value) (some value) := by
  cases value with
  | true => exact (readBoolValue_bool true).optional rfl rfl (by decide)
  | false => exact (readBoolValue_bool false).optional rfl rfl (by decide)

theorem readOptional_ofNat (word : String) {n : Nat} (fits : n < 2 ^ 64) :
    ReadsAs (readOptional (readWordValue word)) (.ofNat n) (some n) := by
  obtain ⟨b, behind, begins, -, notBlank, -, notNull⟩ := bytes_ofNat_begins fits
  exact (readWordValue_ofNat word fits).optional begins notBlank notNull

/-! ## Arrays of strings -/

/-- Behind some texts of an array the next one is found, or the closing bracket. -/
theorem nextElement_strings (text : String) (texts : List String) (first : Bool) (rest : Bytes) :
    nextElement first (elementsBytes first ((text :: texts).map .string) ++ 0x5D :: rest) =
      .ok (some (quotedBytes text ++ (elementsBytes false (texts.map .string) ++ 0x5D :: rest)),
        quotedBytes text ++ (elementsBytes false (texts.map .string) ++ 0x5D :: rest)) := by
  have quoted := quotedBytes_eq text
  cases first <;>
    simp [elementsBytes, bytes, quoted, nextElement, skipBlanks_quote, skipBlanks_comma]

theorem readTexts_strings (texts : List String) (first : Bool) (done : List String) (count : Nat)
    (enough : texts.length < count) (rest : Bytes) :
    readTexts count first done (elementsBytes first (texts.map .string) ++ 0x5D :: rest) =
      .ok (done.reverse ++ texts, 0x5D :: rest) := by
  induction texts generalizing first done count with
  | nil =>
    cases count with
    | zero => exact absurd enough (Nat.not_lt_zero _)
    | succ count =>
      have closing : nextElement first (0x5D :: rest) = .ok (none, 0x5D :: rest) := rfl
      rw [readTexts, List.map_nil, elementsBytes, List.nil_append, closing, List.append_nil]
      rfl
  | cons text texts ih =>
    cases count with
    | zero => exact absurd enough (Nat.not_lt_zero _)
    | succ count =>
      have read := readTextValue_string text _ (endsNumber_elements (texts.map .string) rest)
      have further := ih false (text :: done) count (Nat.lt_of_succ_lt_succ enough)
      rw [bytes] at read
      rw [readTexts, nextElement_strings]
      simp only [bind, Except.bind, read, further]
      simp

theorem readTextsValue_strings (texts : List String) :
    ReadsAs readTextsValue (.array (texts.map .string)) texts := by
  intro rest _
  have begins : ∀ value ∈ texts.map Json.string, BeginsValue (spaced .none (0 + 1) value) := by
    intro value present
    obtain ⟨text, -, rfl⟩ := List.mem_map.1 present
    have kept : Kept 0 (.string text) := .string text
    exact beginsValue_spaced .none _ kept
  have enough := length_lt_spacedElements .none 0 begins true
  have bracket (input : Bytes) : skipBlanks (0x5B :: input) = 0x5B :: input := rfl
  have closes : closeArray (0x5D :: rest) = .ok rest := rfl
  rw [spacedElements_none, List.length_append, List.length_map, List.length_singleton] at enough
  rw [bytes, List.cons_append, List.append_assoc, List.singleton_append, readTextsValue, bracket]
  simp only [if_true]
  rw [readTexts_strings _ _ _ _ (by rw [List.length_append, List.length_cons]; omega)]
  simp only [bind, Except.bind, closes]
  rfl

end Values

/-! ## Records -/

namespace RecordType

variable {ρ α : Type} {type : RecordType ρ α} {record final : ρ} {value : α}
  {members more : List (String × Json)} {middle : ρ}

/-- Members fill a record: each is a field that it does not have yet, whose reader takes the
value. -/
inductive Fills (type : RecordType ρ α) : ρ → List (String × Json) → ρ → Prop where
  | nil {record : ρ} : Fills type record [] record
  | cons {record final : ρ} {name : String} {json : Json} {members : List (String × Json)}
      {field : Field ρ} {enter : ρ → ρ}
      (found : (type.fields.find? fun field => field.name = name) = some field)
      (new : field.isGiven record = false) (reads : ReadsAs field.read json enter)
      (fills : Fills type (enter record) members final) :
      Fills type record ((name, json) :: members) final

theorem Fills.append (fills : type.Fills record members middle)
    (further : type.Fills middle more final) : type.Fills record (members ++ more) final := by
  induction fills with
  | nil => exact further
  | cons found new reads _ ih => exact .cons found new reads (ih further)

/-- A record is finished: it has all that it must have. -/
def Finishes (type : RecordType ρ α) (record : ρ) (value : α) : Prop :=
  (∀ field ∈ type.fields, field.isRequired = true → field.isGiven record = true) ∧
    type.finish record = some value

theorem complete_ok (finishes : type.Finishes final value) (rest : Bytes) :
    type.complete final rest = .ok value := by
  have nothing :
      type.fields.find? (fun field => field.isRequired && !field.isGiven final) = none := by
    rw [List.find?_eq_none]
    intro field present missing
    simp only [Bool.and_eq_true, Bool.not_eq_true'] at missing
    simp [finishes.1 field present missing.1] at missing
  rw [complete, nothing]
  simp only [finishes.2]

theorem nextMember_entries (name : String) (json : Json) (members : List (String × Json))
    (first : Bool) (rest : Bytes) :
    nextMember first (entriesBytes first ((name, json) :: members) ++ 0x7D :: rest) =
      .ok (some (quotedTail name ++ 0x3A ::
          (bytes json ++ (entriesBytes false members ++ 0x7D :: rest))),
        quotedTail name ++ 0x3A ::
          (bytes json ++ (entriesBytes false members ++ 0x7D :: rest))) := by
  cases first with
  | true =>
    rw [entriesBytes_first]
    simp [nextMember, skipBlanks_quote]
  | false =>
    rw [entriesBytes_further, entriesBytes_first]
    simp [nextMember, skipBlanks_quote, skipBlanks_comma]

/-- **Members that fill a record are read one by one.** -/
theorem readByName_entriesBytes (fills : type.Fills record members final)
    (finishes : type.Finishes final value) (first : Bool) (count : Nat)
    (enough : members.length < count) (rest : Bytes) :
    type.readByName count first record (entriesBytes first members ++ 0x7D :: rest) =
      .ok (value, 0x7D :: rest) := by
  -- on how the members fill the record, since each one is read into what the ones before have left
  induction fills generalizing first count with
  | nil =>
    cases count with
    | zero => exact absurd enough (Nat.not_lt_zero _)
    | succ count =>
      have closing : nextMember first (0x7D :: rest) = .ok (none, 0x7D :: rest) := rfl
      rw [readByName, entriesBytes, List.nil_append, closing]
      simp only [interrupting, mapError_ok, bind, Except.bind, complete_ok finishes]
      rfl
  | @cons record final name json members field enter found new reads _ ih =>
    cases count with
    | zero => exact absurd enough (Nat.not_lt_zero _)
    | succ count =>
      have read := reads _ (endsNumber_entries members rest)
      have further := ih finishes false count (Nat.lt_of_succ_lt_succ enough)
      rw [readByName, nextMember_entries]
      simp only [interrupting, mapError_ok, bind, Except.bind, readString_quotedTail, found,
        new, Bool.false_eq_true, if_false, expectColon_colon, read, further]

/-- **A record is read back** from the text of an object whose members fill it. -/
theorem readText_object (fills : type.Fills type.start members final)
    (finishes : type.Finishes final value) :
    type.readText (Json.object members).text = .ok value := by
  have brace (input : Bytes) : skipBlanks (0x7B :: input) = 0x7B :: input := rfl
  have closes : closeObject [0x7D] = .ok [] := rfl
  have enough := length_lt_spacedMembers .none 0 members true
  rw [spacedMembers_none] at enough
  have read := readByName_entriesBytes fills finishes true
    ((entriesBytes true members ++ [0x7D]).length + 1) (by omega) []
  have notArray : ¬ (0x7B : UInt8) = 0x5B := by decide
  have depth : ¬ greatestDepth = 0 := by decide
  rw [readText, encode_text, bytes, runStep, readAt, brace]
  simp only [notArray, depth, if_false, if_true, read, bind, Except.bind, mapError_ok, closes]
  rfl

end RecordType

end EngineBridge.Json
