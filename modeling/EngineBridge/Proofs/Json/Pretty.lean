import EngineBridge.Proofs.Json.Spaced
/-!
# Texts on lines

Between the tokens of the canonical text `Json.pretty` puts blanks and nothing else.  With the
blanks outside of strings taken out it is the canonical text again, whatever the strings hold
(`squeeze_pretty`).  Where the blanks stand is the spacing `Spacing.lines`, so the text is read as
the canonical one is (`readText_pretty`).
-/

namespace EngineBridge.Json

/-! ## Taking blanks out -/

/-- Where in a text one stands. -/
inductive Spot where
  | outside
  | string
  /-- Behind a backslash in a string. -/
  | escape
deriving DecidableEq, Repr

/-- Where one stands behind one more character. -/
def Spot.next : Spot → Char → Spot
  | outside, c => if c = '"' then string else outside
  | string, c => if c = '"' then outside else if c = '\\' then escape else string
  | escape, _ => string

/-- Whether a character is a blank, if it stands outside of a string. -/
def isBlankChar (c : Char) : Bool := c = ' ' || c = '\n' || c = '\t' || c = '\r'

/-- Whether a character is kept outside of strings and does not begin one. -/
def isSolid (c : Char) : Bool := !isBlankChar c && c != '"'

/-- What is left of a text so far, and where one stands behind it. -/
structure Squeezed where
  text : String
  spot : Spot
deriving DecidableEq, Repr

/-- Goes over one more character, and leaves a blank outside of strings out. -/
def Squeezed.push (left : Squeezed) (c : Char) : Squeezed :=
  ⟨if left.spot = .outside ∧ isBlankChar c then left.text else left.text.push c, left.spot.next c⟩

/-- Goes over a text from its start. -/
def squeezed (text : String) : Squeezed := text.toList.foldl .push ⟨"", .outside⟩

/-- A text without the blanks outside of its strings. -/
def squeeze (text : String) : String := (squeezed text).text

/-- A text ends outside of strings, and this is left of it. -/
def SqueezesTo (text left : String) : Prop := squeezed text = ⟨left, .outside⟩

theorem squeezed_append (a b : String) : squeezed (a ++ b) = b.toList.foldl .push (squeezed a) := by
  rw [squeezed, String.toList_append, List.foldl_append]
  rfl

theorem squeezed_push (text : String) (c : Char) :
    squeezed (text.push c) = (squeezed text).push c := by
  rw [squeezed, String.toList_push, List.foldl_append]
  rfl

theorem isSolid_iff {c : Char} : isSolid c = true ↔ isBlankChar c = false ∧ c ≠ '"' := by
  simp [isSolid]

/-- Characters of which none is a blank are all kept. -/
theorem foldl_push_solid {chars : List Char} (solid : ∀ c ∈ chars, isBlankChar c = false)
    (left : String) (spot : Spot) :
    chars.foldl Squeezed.push ⟨left, spot⟩ =
      ⟨left ++ String.ofList chars, chars.foldl .next spot⟩ := by
  induction chars generalizing left spot with
  | nil => simp
  | cons c chars ih =>
    have kept : Squeezed.push ⟨left, spot⟩ c = ⟨left.push c, spot.next c⟩ := by
      simp [Squeezed.push, solid c List.mem_cons_self]
    rw [List.foldl_cons, kept, ih fun d present => solid d (List.mem_cons_of_mem _ present)]
    congr 1
    apply String.toList_inj.1
    simp

theorem foldl_push_blanks {chars : List Char} (blank : ∀ c ∈ chars, isBlankChar c = true)
    (left : String) : chars.foldl Squeezed.push ⟨left, .outside⟩ = ⟨left, .outside⟩ := by
  induction chars with
  | nil => rfl
  | cons c chars ih =>
    have is := blank c List.mem_cons_self
    have noQuote : c ≠ '"' := by
      rintro rfl
      exact absurd is (by decide)
    have skipped : Squeezed.push ⟨left, .outside⟩ c = ⟨left, .outside⟩ := by
      simp [Squeezed.push, Spot.next, is, noQuote]
    rw [List.foldl_cons, skipped]
    exact ih fun d present => blank d (List.mem_cons_of_mem _ present)

/-- Characters that begin no string do not leave the outside. -/
theorem foldl_next_outside {chars : List Char} (noQuote : ∀ c ∈ chars, c ≠ '"') :
    chars.foldl Spot.next .outside = .outside := by
  induction chars with
  | nil => rfl
  | cons c chars ih =>
    have stays : Spot.next .outside c = .outside := if_neg (noQuote c List.mem_cons_self)
    rw [List.foldl_cons, stays]
    exact ih fun d present => noQuote d (List.mem_cons_of_mem _ present)

/-! ## Tokens and blanks -/

namespace SqueezesTo

variable {out left : String}

theorem token (leads : SqueezesTo out left) {text : String}
    (solid : text.toList.all isSolid = true) : SqueezesTo (out ++ text) (left ++ text) := by
  have each c (present : c ∈ text.toList) := isSolid_iff.1 (List.all_eq_true.1 solid c present)
  rw [SqueezesTo, squeezed_append, leads, foldl_push_solid fun c present => (each c present).1,
    foldl_next_outside fun c present => (each c present).2, String.ofList_toList]

theorem mark (leads : SqueezesTo out left) {c : Char} (solid : isSolid c = true) :
    SqueezesTo (out.push c) (left.push c) := by
  obtain ⟨noBlank, noQuote⟩ := isSolid_iff.1 solid
  rw [SqueezesTo, squeezed_push, leads, Squeezed.push, Spot.next]
  simp [noBlank, noQuote]

theorem blanks (leads : SqueezesTo out left) {text : String}
    (blank : text.toList.all isBlankChar = true) : SqueezesTo (out ++ text) left := by
  rw [SqueezesTo, squeezed_append, leads, foldl_push_blanks (List.all_eq_true.1 blank)]

theorem number (leads : SqueezesTo out left) (value : JsonNumber) :
    SqueezesTo (out ++ value.text) (left ++ value.text) := by
  refine leads.token (List.all_eq_true.2 fun c present => ?_)
  have numeric := value.numeric_text c present
  have above := toNat_of_isNumeric numeric
  refine isSolid_iff.2 ⟨?_, ?_⟩
  · simp only [isBlankChar, Bool.or_eq_false_iff, decide_eq_false_iff_not]
    refine ⟨⟨⟨?_, ?_⟩, ?_⟩, ?_⟩ <;> rintro rfl <;> exact absurd above (by decide)
  · rintro rfl
    exact absurd numeric (by decide)

end SqueezesTo

/-- What is written for a character of a string is kept, and one stands in the string still. -/
theorem foldl_push_escaped (c : Char) (left : String) :
    (escaped c).foldl Squeezed.push ⟨left, .string⟩ =
      ⟨left ++ String.ofList (escaped c), .string⟩ := by
  have special : ((escaped c).all fun d => !isBlankChar d) = true →
      (escaped c).foldl Spot.next .string = .string →
      (escaped c).foldl Squeezed.push ⟨left, .string⟩ =
        ⟨left ++ String.ofList (escaped c), .string⟩ := by
    intro solid stays
    rw [foldl_push_solid (by simpa using solid), stays]
  by_cases quote : c = '"'
  · subst quote
    exact special (by decide) (by decide)
  by_cases backslash : c = '\\'
  · subst backslash
    exact special (by decide) (by decide)
  by_cases plain : 0x20 ≤ c.toNat
  · rw [escaped_of_plain plain quote backslash]
    apply congrArg₂ Squeezed.mk
    · simp only [reduceCtorEq, false_and, if_false]
      apply String.toList_inj.1
      simp
    · simp [Spot.next, quote, backslash]
  · have control : ∀ n < 0x20, ((escaped (Char.ofNat n)).all fun d => !isBlankChar d) = true ∧
        (escaped (Char.ofNat n)).foldl Spot.next .string = .string := by decide
    have both := control c.toNat (by omega)
    rw [Char.ofNat_toNat] at both
    exact special both.1 both.2

theorem foldl_push_flatMap (chars : List Char) (left : String) :
    (chars.flatMap escaped).foldl Squeezed.push ⟨left, .string⟩ =
      ⟨left ++ String.ofList (chars.flatMap escaped), .string⟩ := by
  induction chars generalizing left with
  | nil => simp
  | cons c chars ih =>
    rw [List.flatMap_cons, List.foldl_append, foldl_push_escaped, ih]
    congr 1
    apply String.toList_inj.1
    simp

/-- A string is kept with all the blanks in it. -/
theorem SqueezesTo.quoted {out left : String} (leads : SqueezesTo out left) (value : String) :
    SqueezesTo (appendQuoted out value) (appendQuoted left value) := by
  have opens : Squeezed.push ⟨left, .outside⟩ '"' = ⟨left.push '"', .string⟩ := rfl
  have closes (text : String) : Squeezed.push ⟨text, .string⟩ '"' = ⟨text.push '"', .outside⟩ := rfl
  rw [appendQuoted_eq, appendQuoted_eq, SqueezesTo, squeezed_append, leads, String.toList_ofList,
    quotedChars, List.foldl_cons, List.foldl_append, opens, foldl_push_flatMap, List.foldl_cons,
    List.foldl_nil, closes]
  congr 1
  apply String.toList_inj.1
  simp

theorem appendLine_eq (out : String) (level : Nat) :
    appendLine out level = out ++ String.ofList ('\n' :: List.replicate (2 * level) ' ') := by
  rw [appendLine, foldl_push]
  apply String.toList_inj.1
  simp

theorem SqueezesTo.line {out left : String} (leads : SqueezesTo out left) (level : Nat) :
    SqueezesTo (appendLine out level) left := by
  rw [appendLine_eq]
  refine leads.blanks (List.all_eq_true.2 fun c present => ?_)
  rw [String.toList_ofList, List.mem_cons] at present
  rcases present with rfl | present
  · decide
  · rw [List.eq_of_mem_replicate present]
    decide

theorem SqueezesTo.colon {out left : String} (leads : SqueezesTo out left) :
    SqueezesTo (out ++ ": ") (left.push ':') := by
  have split : out ++ ": " = out.push ':' ++ " " := by
    apply String.toList_inj.1
    simp
  rw [split]
  exact (leads.mark (by decide)).blanks (by decide)

/-! ## Values -/

mutual

theorem squeezesTo_pretty {out left : String} (leads : SqueezesTo out left) (level : Nat) :
    ∀ value, SqueezesTo (appendPretty level out value) (appendText left value)
  | .null | .bool true | .bool false => by
    rw [appendPretty, appendText]
    exact leads.token (by decide)
  | .number value => by
    rw [appendPretty, appendText]
    exact leads.number value
  | .string value => by
    rw [appendPretty, appendText]
    exact leads.quoted value
  | .array [] => by
    have brackets : (left.push '[').push ']' = left ++ "[]" := by
      apply String.toList_inj.1
      simp
    rw [appendPretty, appendText, appendElements, brackets]
    exact leads.token (by decide)
  | .array (value :: rest) => by
    rw [appendPretty, appendText, appendElements]
    have opened := (leads.mark (c := '[') (by decide)).line (level + 1)
    have first := squeezesTo_pretty opened (level + 1) value
    exact ((squeezesTo_prettyElements first level rest).line level).mark (by decide)
  | .object [] => by
    rw [appendPretty, appendText, appendMembers]
    exact (leads.mark (by decide)).mark (by decide)
  | .object ((name, value) :: rest) => by
    rw [appendPretty, appendText, appendMembers]
    have opened := (leads.mark (c := '\x7b') (by decide)).line (level + 1)
    have first := squeezesTo_pretty (opened.quoted name).colon (level + 1) value
    exact ((squeezesTo_prettyMembers first level rest).line level).mark (by decide)

theorem squeezesTo_prettyElements {out left : String} (leads : SqueezesTo out left) (level : Nat) :
    ∀ elements, SqueezesTo (appendPrettyElements level out elements)
      (appendElements left false elements)
  | [] => by
    rw [appendPrettyElements, appendElements]
    exact leads
  | value :: rest => by
    rw [appendPrettyElements, appendElements]
    have opened := (leads.mark (c := ',') (by decide)).line (level + 1)
    exact squeezesTo_prettyElements (squeezesTo_pretty opened (level + 1) value) level rest

theorem squeezesTo_prettyMembers {out left : String} (leads : SqueezesTo out left) (level : Nat) :
    ∀ members, SqueezesTo (appendPrettyMembers level out members) (appendMembers left false members)
  | [] => by
    rw [appendPrettyMembers, appendMembers]
    exact leads
  | (name, value) :: rest => by
    rw [appendPrettyMembers, appendMembers]
    have opened := (leads.mark (c := ',') (by decide)).line (level + 1)
    exact squeezesTo_prettyMembers
      (squeezesTo_pretty (opened.quoted name).colon (level + 1) value) level rest

end

/-- **A text on lines is the canonical text with blanks outside of its strings.** -/
theorem squeeze_pretty (value : Json) : squeeze value.pretty = value.text :=
  congrArg Squeezed.text (squeezesTo_pretty (rfl : SqueezesTo "" "") 0 value)

example : squeeze "[\n  1,\n  \" [\\\" \"\n]" = "[1,\" [\\\" \"]" := by decide

/-! ## Reading -/

/-- Lines that are indented by two blanks a level, and a blank behind a colon. -/
def Spacing.lines : Spacing where
  line level := 0x0A :: List.replicate (2 * level) 0x20
  colon := [0x20]
  line_blank level b present := by
    rcases List.mem_cons.1 present with rfl | present
    · decide
    · rw [List.eq_of_mem_replicate present]
      decide
  colon_blank := List.forall_mem_singleton.2 rfl

theorem encode_appendLine (out : String) (level : Nat) :
    Utf8.encode (appendLine out level) = Utf8.encode out ++ Spacing.lines.line level := by
  rw [appendLine_eq, Utf8.encode_append, Utf8.encode_ofList, List.flatMap_cons,
    List.flatMap_replicate]
  have blank : Utf8.encodeChar ' ' = [0x20] := rfl
  have feed : Utf8.encodeChar '\n' = [0x0A] := rfl
  rw [blank, feed]
  simp [Spacing.lines]

theorem encode_colon : Utf8.encode ": " = 0x3A :: Spacing.lines.colon := by
  decide

mutual

theorem encode_appendPretty (level : Nat) (out : String) : ∀ value,
    Utf8.encode (appendPretty level out value) = Utf8.encode out ++ spaced .lines level value
  | .null | .bool true | .bool false | .number _ => by
    rw [appendPretty, Utf8.encode_append]
    rfl
  | .string value => encode_appendQuoted out value
  | .array [] => by
    rw [appendPretty, Utf8.encode_append]
    rfl
  | .array (value :: rest) => by
    have opening : Utf8.encodeChar '[' = [0x5B] := rfl
    have closing : Utf8.encodeChar ']' = [0x5D] := rfl
    rw [appendPretty, encode_push, encode_appendLine, closing, encode_appendPrettyElements,
      encode_appendPretty, encode_appendLine, encode_push, opening, spaced, spacedElements]
    simp
  | .object [] => by
    rw [appendPretty, encode_push, encode_push, List.append_assoc]
    rfl
  | .object ((name, value) :: rest) => by
    have opening : Utf8.encodeChar '\x7b' = [0x7B] := rfl
    have closing : Utf8.encodeChar '\x7d' = [0x7D] := rfl
    rw [appendPretty, encode_push, encode_appendLine, closing, encode_appendPrettyMembers,
      encode_appendPretty, Utf8.encode_append, encode_colon, encode_appendQuoted,
      encode_appendLine, encode_push, opening, spaced, spacedMembers]
    simp

theorem encode_appendPrettyElements (level : Nat) (out : String) : ∀ elements,
    Utf8.encode (appendPrettyElements level out elements) ++ Spacing.lines.line level ++ [0x5D] =
      Utf8.encode out ++ spacedElements .lines level false elements
  | [] => by
    rw [appendPrettyElements, spacedElements, List.append_assoc]
    rfl
  | value :: rest => by
    have comma : Utf8.encodeChar ',' = [0x2C] := rfl
    rw [appendPrettyElements, encode_appendPrettyElements, encode_appendPretty, encode_appendLine,
      encode_push, comma, spacedElements]
    simp

theorem encode_appendPrettyMembers (level : Nat) (out : String) : ∀ members,
    Utf8.encode (appendPrettyMembers level out members) ++ Spacing.lines.line level ++ [0x7D] =
      Utf8.encode out ++ spacedMembers .lines level false members
  | [] => by
    rw [appendPrettyMembers, spacedMembers, List.append_assoc]
    rfl
  | (name, value) :: rest => by
    have comma : Utf8.encodeChar ',' = [0x2C] := rfl
    rw [appendPrettyMembers, encode_appendPrettyMembers, encode_appendPretty, Utf8.encode_append,
      encode_colon, encode_appendQuoted, encode_appendLine, encode_push, comma, spacedMembers]
    simp

end

theorem encode_pretty (value : Json) : Utf8.encode value.pretty = spaced .lines 0 value := by
  rw [pretty, encode_appendPretty]
  rfl

/-- **A text on lines is read as the canonical one is.** -/
theorem readText_pretty {value : Json} (kept : Kept greatestDepth value) :
    readText value.pretty = .ok value.reread :=
  readText_spaced kept (encode_pretty value)

end EngineBridge.Json
