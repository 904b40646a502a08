import EngineBridge.Json.Text
import EngineBridge.Proofs.Text.Utf8
/-!
# What stands in the text of a JSON value

`text_plain`: the canonical text of a value has no control character, whatever strings and
names the value holds, and so no byte of it is one (`Plain.le_of_mem_encode`).  A number is written
with digits and a few marks (`JsonNumber.numeric_text`).  `text_strings` gives the characters of an
object whose members are strings.
-/

namespace EngineBridge

namespace Json

/-- No control character stands in a text. -/
def Plain (text : String) : Prop := ∀ c ∈ text.toList, 0x20 ≤ c.toNat

instance (text : String) : Decidable (Plain text) :=
  List.decidableBAll (fun c : Char => 0x20 ≤ c.toNat) text.toList

@[simp] theorem plain_append {a b : String} : Plain (a ++ b) ↔ Plain a ∧ Plain b := by
  simp [Plain, or_imp, forall_and]

@[simp] theorem plain_push {text : String} {c : Char} :
    Plain (text.push c) ↔ Plain text ∧ 0x20 ≤ c.toNat := by
  simp [Plain, or_imp, forall_and]

@[simp] theorem plain_ofList {chars : List Char} :
    Plain (String.ofList chars) ↔ ∀ c ∈ chars, 0x20 ≤ c.toNat := by
  simp [Plain]

theorem plain_empty : Plain "" := by
  intro c present
  simp at present

/-- No byte of a plain text is a control character. -/
theorem Plain.le_of_mem_encode {text : String} (plain : Plain text) {b : UInt8}
    (present : b ∈ Utf8.encode text) : 0x20 ≤ b := by
  rw [Utf8.encode_eq, List.mem_flatMap] at present
  obtain ⟨c, among, present⟩ := present
  have above : 0x20 ≤ c.toNat := plain c among
  have below : 0x20 ≤ b.toNat := by
    rcases Utf8.mem_encodeChar present with same | high
    · omega
    · omega
  exact UInt8.le_iff_toNat_le.2 below

theorem Plain.noNul {text : String} (plain : Plain text) : 0 ∉ Utf8.encode text :=
  fun nul => absurd (plain.le_of_mem_encode nul) (by decide)

/-! ## Numbers -/

/-- Characters that stand in the text of a number. -/
def isNumeric (c : Char) : Bool := c.isDigit || ['-', '+', '.', 'e'].contains c

/-- Nothing but digits, signs, points and exponent marks stands in a text. -/
def Numeric (text : String) : Prop := ∀ c ∈ text.toList, isNumeric c = true

instance (text : String) : Decidable (Numeric text) :=
  List.decidableBAll (fun c : Char => isNumeric c = true) text.toList

theorem numeric_append {a b : String} : Numeric (a ++ b) ↔ Numeric a ∧ Numeric b := by
  simp [Numeric, or_imp, forall_and]

theorem numeric_ofList {chars : List Char} :
    Numeric (String.ofList chars) ↔ ∀ c ∈ chars, isNumeric c = true := by
  simp [Numeric]

/-- A digit is no control character, and neither is anything else in the text of a number. -/
theorem toNat_of_isNumeric {c : Char} (numeric : isNumeric c = true) : 0x20 < c.toNat := by
  rw [isNumeric, Bool.or_eq_true] at numeric
  rcases numeric with digit | mark
  · rw [Char.isDigit, Bool.and_eq_true, decide_eq_true_iff] at digit
    have low : '0'.toNat ≤ c.toNat := UInt32.le_iff_toNat_le.1 digit.1
    exact Nat.lt_of_lt_of_le (by decide) low
  · simp only [List.contains_cons, List.contains_nil, Bool.or_false, Bool.or_eq_true, beq_iff_eq]
      at mark
    rcases mark with rfl | rfl | rfl | rfl <;> decide

theorem Numeric.plain {text : String} (numeric : Numeric text) : Plain text :=
  fun c present => Nat.le_of_lt (toNat_of_isNumeric (numeric c present))

theorem numeric_natText (n : Nat) : Numeric (toString n) := by
  intro c present
  rw [Nat.toString_eq_repr, Nat.repr, String.toList_ofList] at present
  rw [isNumeric, Nat.isDigit_of_mem_toDigits (by decide) (by decide) present, Bool.true_or]

theorem numeric_intText (n : Int) : Numeric (toString n) := by
  cases n with
  | ofNat n => exact numeric_natText n
  | negSucc n =>
    rw [Int.toString_eq_repr, Int.repr, ← Nat.toString_eq_repr]
    exact numeric_append.2 ⟨by decide, numeric_natText _⟩

end Json

namespace Decimal

open Json (Numeric numeric_append numeric_ofList numeric_natText)

theorem numeric_digitText (d : Decimal) : Numeric d.digitText := numeric_natText _

theorem numeric_zeros (n : Nat) : Numeric (zeros n) := by
  rw [zeros, numeric_ofList]
  intro c present
  rw [List.eq_of_mem_replicate present]
  decide

theorem numeric_positional (d : Decimal) : Numeric d.positional := by
  have digits := numeric_digitText d
  have zeros := numeric_zeros
  rw [positional]
  split
  · exact numeric_append.2 ⟨numeric_append.2 ⟨digits, zeros _⟩, by decide⟩
  · dsimp only
    split
    · exact numeric_append.2 ⟨numeric_append.2 ⟨by decide, zeros _⟩, digits⟩
    · refine numeric_append.2
        ⟨numeric_append.2 ⟨numeric_ofList.2 ?_, by decide⟩, numeric_ofList.2 ?_⟩
      · intro c present
        exact digits c (List.mem_of_mem_take present)
      · intro c present
        exact digits c (List.mem_of_mem_drop present)

theorem numeric_scientific (d : Decimal) : Numeric d.scientific := by
  have digits : ∀ c ∈ d.digitText.toList, Json.isNumeric c = true := numeric_digitText d
  rw [scientific]
  refine numeric_append.2 ⟨numeric_append.2 ⟨?_, ?_⟩, numeric_natText _⟩
  · split
    · exact numeric_ofList.2 nofun
    · next first shown =>
      rw [numeric_ofList, ← shown]
      exact digits
    · next first rest _ shown =>
      rw [shown] at digits
      rw [numeric_ofList]
      intro c present
      rcases List.mem_cons.1 present with rfl | present
      · exact digits _ List.mem_cons_self
      · rcases List.mem_cons.1 present with rfl | present
        · decide
        · exact digits c (List.mem_cons_of_mem _ present)
  · split <;> decide

end Decimal

theorem Binary64.numeric_text (layout : FloatLayout) (f : Binary64) :
    Json.Numeric (f.text layout) := by
  rw [Binary64.text]
  refine Json.numeric_append.2 ⟨?_, ?_⟩
  · rw [Binary64.sign]
    split <;> decide
  · split
    · decide
    · split
      · exact Decimal.numeric_positional _
      · exact Decimal.numeric_scientific _

theorem JsonNumber.numeric_text (number : JsonNumber) : Json.Numeric number.text := by
  cases number with
  | integer value => exact Json.numeric_intText value
  | float value => exact Binary64.numeric_text _ value

namespace Json

/-! ## Strings -/

theorem escaped_of_plain {c : Char} (plain : 0x20 ≤ c.toNat) (quote : c ≠ '"')
    (backslash : c ≠ '\\') : escaped c = [c] := by
  unfold escaped
  repeat rw [if_neg (by first | assumption | omega)]

/-- What is written for a character is plain, whatever the character. -/
theorem escaped_plain (c : Char) : ∀ d ∈ escaped c, 0x20 ≤ d.toNat := by
  by_cases plain : 0x20 ≤ c.toNat
  · by_cases quote : c = '"'
    · subst quote
      exact plain_ofList.1 (by decide)
    · by_cases backslash : c = '\\'
      · subst backslash
        exact plain_ofList.1 (by decide)
      · rw [escaped_of_plain plain quote backslash]
        simpa using plain
  · have control : ∀ n < 0x20, Plain (String.ofList (escaped (Char.ofNat n))) := by decide
    rw [← Char.ofNat_toNat c]
    exact plain_ofList.1 (control _ (by omega))

/-- The characters of a string in quotes. -/
def quotedChars (value : String) : List Char := '"' :: (value.toList.flatMap escaped ++ ['"'])

theorem foldl_push (chars : List Char) (out : String) :
    chars.foldl String.push out = out ++ String.ofList chars := by
  induction chars generalizing out with
  | nil => simp
  | cons c chars ih =>
    rw [List.foldl_cons, ih]
    apply String.toList_inj.1
    simp

theorem foldl_escaped (chars : List Char) (out : String) :
    chars.foldl (fun text c => (escaped c).foldl String.push text) out =
      out ++ String.ofList (chars.flatMap escaped) := by
  induction chars generalizing out with
  | nil => simp
  | cons c chars ih =>
    rw [List.foldl_cons, ih, foldl_push]
    apply String.toList_inj.1
    simp

theorem appendQuoted_eq (out value : String) :
    appendQuoted out value = out ++ String.ofList (quotedChars value) := by
  rw [appendQuoted, foldl_escaped]
  apply String.toList_inj.1
  simp [quotedChars]

theorem quotedChars_plain (value : String) : ∀ c ∈ quotedChars value, 0x20 ≤ c.toNat := by
  intro c present
  rw [quotedChars, List.mem_cons, List.mem_append, List.mem_singleton, List.mem_flatMap] at present
  rcases present with rfl | ⟨d, -, written⟩ | rfl
  · decide
  · exact escaped_plain d c written
  · decide

/-! ## Values -/

theorem plain_appendQuoted {out : String} (value : String) (plain : Plain out) :
    Plain (appendQuoted out value) := by
  rw [appendQuoted_eq]
  exact plain_append.2 ⟨plain, plain_ofList.2 (quotedChars_plain value)⟩

theorem plain_separated {out : String} (first : Bool) (plain : Plain out) :
    Plain (if first then out else out.push ',') := by
  split
  · exact plain
  · exact plain_push.2 ⟨plain, by decide⟩

mutual

theorem plain_appendText {out : String} (plain : Plain out) :
    ∀ value, Plain (appendText out value)
  | .null | .bool true | .bool false => by
    rw [appendText]
    exact plain_append.2 ⟨plain, by decide⟩
  | .number value => by
    rw [appendText]
    exact plain_append.2 ⟨plain, value.numeric_text.plain⟩
  | .string value => by
    rw [appendText]
    exact plain_appendQuoted value plain
  | .array elements => by
    rw [appendText]
    have opened : Plain (out.push '[') := plain_push.2 ⟨plain, by decide⟩
    exact plain_push.2 ⟨plain_appendElements opened true elements, by decide⟩
  | .object members => by
    rw [appendText]
    have opened : Plain (out.push '\x7b') := plain_push.2 ⟨plain, by decide⟩
    exact plain_push.2 ⟨plain_appendMembers opened true members, by decide⟩

theorem plain_appendElements {out : String} (plain : Plain out) (first : Bool) :
    ∀ elements, Plain (appendElements out first elements)
  | [] => by
    rw [appendElements]
    exact plain
  | value :: rest => by
    rw [appendElements]
    exact plain_appendElements (plain_appendText (plain_separated first plain) value) false rest

theorem plain_appendMembers {out : String} (plain : Plain out) (first : Bool) :
    ∀ members, Plain (appendMembers out first members)
  | [] => by
    rw [appendMembers]
    exact plain
  | (name, value) :: rest => by
    rw [appendMembers]
    have named : Plain ((appendQuoted (if first then out else out.push ',') name).push ':') :=
      plain_push.2 ⟨plain_appendQuoted name (plain_separated first plain), by decide⟩
    exact plain_appendMembers (plain_appendText named value) false rest

end

/-- The canonical text of a value has no control character. -/
theorem text_plain (value : Json) : Plain value.text := plain_appendText plain_empty value

/-! ## Objects of strings -/

/-- The characters of members whose values are strings, a comma before each but the first. -/
def memberChars (first : Bool) : List (String × String) → List Char
  | [] => []
  | (name, value) :: rest =>
    (if first then [] else [',']) ++ quotedChars name ++ ':' :: quotedChars value
      ++ memberChars false rest

/-- Members whose values are strings. -/
def strings (members : List (String × String)) : List (String × Json) :=
  members.map fun member => (member.1, .string member.2)

theorem appendMembers_strings (members : List (String × String)) (out : String) (first : Bool) :
    appendMembers out first (strings members) = out ++ String.ofList (memberChars first members) := by
  induction members generalizing out first with
  | nil => simp [strings, appendMembers, memberChars]
  | cons member rest ih =>
    obtain ⟨name, value⟩ := member
    have unfolded : strings ((name, value) :: rest) = (name, .string value) :: strings rest := rfl
    rw [unfolded, appendMembers, appendText, ih, appendQuoted_eq, appendQuoted_eq]
    apply String.toList_inj.1
    cases first <;> simp [memberChars]

theorem text_strings (members : List (String × String)) :
    (Json.object (strings members)).text =
      String.ofList ('\x7b' :: memberChars true members ++ ['\x7d']) := by
  rw [text, appendText, appendMembers_strings]
  apply String.toList_inj.1
  simp

end Json

end EngineBridge
