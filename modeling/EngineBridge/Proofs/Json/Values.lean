import EngineBridge.Proofs.Json.Numbers
import EngineBridge.Proofs.Json.Strings
import EngineBridge.Proofs.NameMap
/-!
# Values and their bytes

`Kept` says which values reading gives: not too many containers inside one another, members in
order, and numbers that reading can give.  `reread` is what comes back from the text of a value:
the value itself, but for doubles, which become those that their decimals are read as.  The bytes of
a value's canonical text follow its structure (`encode_text`).
-/

namespace EngineBridge.Json

/-! ## Values as they are kept -/

/-- A value as reading gives it when so many containers may be opened inside one another. -/
inductive Kept : Nat → Json → Prop where
  | null {levels : Nat} : Kept levels .null
  | bool {levels : Nat} (value : Bool) : Kept levels (.bool value)
  | number {levels : Nat} {value : JsonNumber} (kept : value.Kept) : Kept levels (.number value)
  | string {levels : Nat} (value : String) : Kept levels (.string value)
  | array {levels : Nat} {elements : List Json} (kept : ∀ value ∈ elements, Kept levels value) :
      Kept (levels + 1) (.array elements)
  | object {levels : Nat} {members : List (String × Json)} (sorted : NameMap.Sorted members)
      (kept : ∀ entry ∈ members, Kept levels entry.2) : Kept (levels + 1) (.object members)

mutual

/-- The value that is read from the text of one. -/
def reread : Json → Json
  | .number value => .number value.reread
  | .array elements => .array (rereadElements elements)
  | .object members => .object (rereadMembers members)
  | value => value

/-- The elements, each as read from its text. -/
def rereadElements : List Json → List Json
  | [] => []
  | value :: rest => reread value :: rereadElements rest

/-- The members, each as read from its text. -/
def rereadMembers : List (String × Json) → List (String × Json)
  | [] => []
  | (name, value) :: rest => (name, reread value) :: rereadMembers rest

end

theorem rereadElements_eq (elements : List Json) : rereadElements elements = elements.map reread := by
  induction elements with
  | nil => rfl
  | cons value rest ih => rw [rereadElements, ih, List.map_cons]

theorem rereadMembers_eq (members : List (String × Json)) :
    rereadMembers members = members.map fun entry => (entry.1, reread entry.2) := by
  induction members with
  | nil => rfl
  | cons entry rest ih => rw [rereadMembers, ih, List.map_cons]

/-- What is read from the text of a value can be written and read again. -/
theorem Kept.reread {levels : Nat} {value : Json} (kept : Kept levels value) :
    Kept levels value.reread := by
  induction kept with
  | null => exact .null
  | bool value => exact .bool value
  | number kept => exact .number kept.reread
  | string value => exact .string value
  | array _ ih =>
    rw [Json.reread, rereadElements_eq]
    refine .array fun value present => ?_
    obtain ⟨original, among, rfl⟩ := List.mem_map.1 present
    exact ih original among
  | object sorted _ ih =>
    rw [Json.reread, rereadMembers_eq]
    refine .object (NameMap.sorted_map (fun _ => rfl) sorted) fun entry present => ?_
    obtain ⟨original, among, rfl⟩ := List.mem_map.1 present
    exact ih original among

/-! ## The bytes of a text -/

mutual

/-- The bytes of the canonical text. -/
def bytes : Json → Bytes
  | .null => 0x6E :: nullTail
  | .bool true => 0x74 :: trueTail
  | .bool false => 0x66 :: falseTail
  | .number value => Utf8.encode value.text
  | .string value => quotedBytes value
  | .array elements => 0x5B :: (elementsBytes true elements ++ [0x5D])
  | .object members => 0x7B :: (entriesBytes true members ++ [0x7D])

/-- The bytes of elements, a comma before each but the first. -/
def elementsBytes (first : Bool) : List Json → Bytes
  | [] => []
  | value :: rest => (if first then [] else [0x2C]) ++ bytes value ++ elementsBytes false rest

/-- The bytes of members, a comma before each but the first. -/
def entriesBytes (first : Bool) : List (String × Json) → Bytes
  | [] => []
  | (name, value) :: rest =>
    (if first then [] else [0x2C]) ++ quotedBytes name ++ 0x3A :: bytes value
      ++ entriesBytes false rest

end

theorem encode_push (out : String) (c : Char) :
    Utf8.encode (out.push c) = Utf8.encode out ++ Utf8.encodeChar c := by
  rw [Utf8.encode_eq, Utf8.encode_eq, String.toList_push, List.flatMap_append,
    List.flatMap_singleton]

theorem encode_appendQuoted (out value : String) :
    Utf8.encode (appendQuoted out value) = Utf8.encode out ++ quotedBytes value := by
  rw [appendQuoted_eq, Utf8.encode_append, Utf8.encode_ofList]
  rfl

theorem encode_separated (out : String) (first : Bool) :
    Utf8.encode (if first then out else out.push ',') =
      Utf8.encode out ++ if first then [] else [0x2C] := by
  cases first with
  | true => simp
  | false => exact encode_push out ','

mutual

theorem encode_appendText (out : String) :
    ∀ value, Utf8.encode (appendText out value) = Utf8.encode out ++ bytes value
  | .null | .bool true | .bool false | .number _ => by
    rw [appendText, Utf8.encode_append]
    rfl
  | .string value => encode_appendQuoted out value
  | .array elements => by
    rw [appendText, encode_push, encode_appendElements, encode_push, List.append_assoc,
      List.append_assoc]
    rfl
  | .object members => by
    rw [appendText, encode_push, encode_appendMembers, encode_push, List.append_assoc,
      List.append_assoc]
    rfl

theorem encode_appendElements (out : String) (first : Bool) :
    ∀ elements, Utf8.encode (appendElements out first elements) =
      Utf8.encode out ++ elementsBytes first elements
  | [] => by simp [appendElements, elementsBytes]
  | value :: rest => by
    rw [appendElements, encode_appendElements, encode_appendText, encode_separated, elementsBytes]
    simp only [List.append_assoc]

theorem encode_appendMembers (out : String) (first : Bool) :
    ∀ members, Utf8.encode (appendMembers out first members) =
      Utf8.encode out ++ entriesBytes first members
  | [] => by simp [appendMembers, entriesBytes]
  | (name, value) :: rest => by
    have colon : Utf8.encodeChar ':' = [0x3A] := rfl
    rw [appendMembers, encode_appendMembers, encode_appendText, encode_push, encode_appendQuoted,
      encode_separated, entriesBytes, colon]
    simp only [List.append_assoc, List.cons_append, List.nil_append]

end

theorem encode_text (value : Json) : Utf8.encode value.text = value.bytes := by
  rw [text, encode_appendText]
  rfl

/-! ## Reading lists -/

/-- Bytes with which a value, and no end of a list, may begin. -/
def BeginsValue (input : Bytes) : Prop :=
  ∃ b rest, input = b :: rest ∧ isBlank b = false ∧ b ≠ 0x5D

theorem BeginsValue.append {input : Bytes} (begins : BeginsValue input) (rest : Bytes) :
    BeginsValue (input ++ rest) := by
  obtain ⟨b, behind, rfl, notBlank, notClosing⟩ := begins
  exact ⟨b, behind ++ rest, rfl, notBlank, notClosing⟩

theorem beginsValue_digit {b : UInt8} {d : Nat} (digit : digit? b = some d) (rest : Bytes) :
    BeginsValue (b :: rest) :=
  ⟨b, rest, rfl, isBlank_digit digit, digit?_ne digit 0x5D (by decide)⟩

theorem beginsValue_bytes {levels : Nat} {value : Json} (kept : Kept levels value) :
    BeginsValue (bytes value) := by
  cases kept with
  | null => exact ⟨_, _, rfl, by decide, by decide⟩
  | bool value => cases value <;> exact ⟨_, _, rfl, by decide, by decide⟩
  | number kept =>
    obtain ⟨negative, body, text, reads⟩ := encode_number kept
    rw [bytes, text]
    cases negative with
    | true => exact ⟨_, _, rfl, by decide, by decide⟩
    | false =>
      have read := reads [] nofun
      rw [List.append_nil] at read
      obtain ⟨b, d, behind, rfl, digit⟩ := digit?_of_readNumber read
      exact beginsValue_digit digit behind
  | string value =>
    rw [bytes, quotedBytes_eq]
    exact ⟨_, _, rfl, by decide, by decide⟩
  | array _ => exact ⟨_, _, rfl, by decide, by decide⟩
  | object _ _ => exact ⟨_, _, rfl, by decide, by decide⟩

theorem endsNumber_of {b : UInt8} (digit : digit? b = none) (point : b ≠ 0x2E)
    (mark : isExponentMark b = false) (rest : Bytes) : EndsNumber (b :: rest) := by
  rintro c ⟨⟩
  exact ⟨digit, point, mark⟩

/-- Behind an element stands a comma or the closing bracket. -/
theorem endsNumber_elements (elements : List Json) (rest : Bytes) :
    EndsNumber (elementsBytes false elements ++ 0x5D :: rest) := by
  cases elements with
  | nil => exact endsNumber_of rfl (by decide) rfl _
  | cons value elements => exact endsNumber_of rfl (by decide) rfl _

/-- Behind a member stands a comma or the closing brace. -/
theorem endsNumber_entries (members : List (String × Json)) (rest : Bytes) :
    EndsNumber (entriesBytes false members ++ 0x7D :: rest) := by
  cases members with
  | nil => exact endsNumber_of rfl (by decide) rfl _
  | cons member members => exact endsNumber_of rfl (by decide) rfl _

theorem skipBlanks_of_begins {input : Bytes} (begins : BeginsValue input) :
    skipBlanks input = input := by
  obtain ⟨b, rest, rfl, notBlank, -⟩ := begins
  exact skipBlanks_of_notBlank notBlank

theorem entriesBytes_first (name : String) (value : Json) (members : List (String × Json)) :
    entriesBytes true ((name, value) :: members) =
      0x22 :: (quotedTail name ++ 0x3A :: (bytes value ++ entriesBytes false members)) := by
  rw [← List.cons_append, ← quotedBytes_eq]
  simp [entriesBytes]

theorem entriesBytes_further (name : String) (value : Json) (members : List (String × Json)) :
    entriesBytes false ((name, value) :: members) =
      0x2C :: entriesBytes true ((name, value) :: members) := rfl

theorem expectColon_colon (rest : Bytes) : expectColon (0x3A :: rest) = .ok rest := rfl

theorem skipBlanks_comma (rest : Bytes) : skipBlanks (0x2C :: rest) = 0x2C :: rest := rfl

end EngineBridge.Json
