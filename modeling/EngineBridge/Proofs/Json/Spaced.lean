import EngineBridge.Proofs.Json.Values
/-!
# Reading back values

A text that holds the tokens of a value's canonical text, with any blanks between them (`spaced`),
is read as the value (`readText_spaced`): members that are in order stay as they are, and each
double becomes the one its decimal is read as.  The canonical text is the one without blanks
(`readText_text`).
-/

namespace EngineBridge.Json

/-! ## Blanks between tokens -/

/-- Blanks that are put between the tokens of a text: in front of what begins a line at a level, and
behind a colon. -/
structure Spacing where
  line : Nat → Bytes
  colon : Bytes
  line_blank : ∀ level, ∀ b ∈ line level, isBlank b = true
  colon_blank : ∀ b ∈ colon, isBlank b = true

/-- No blanks at all. -/
def Spacing.none : Spacing := ⟨fun _ => [], [], nofun, nofun⟩

mutual

/-- The bytes of a value that stands at a level: its tokens, with blanks between them. -/
def spaced (spacing : Spacing) (level : Nat) : Json → Bytes
  | .array elements => 0x5B :: spacedElements spacing level true elements
  | .object members => 0x7B :: spacedMembers spacing level true members
  | value => bytes value

/-- The bytes of elements up to the bracket that closes them. -/
def spacedElements (spacing : Spacing) (level : Nat) (first : Bool) : List Json → Bytes
  | [] => (if first then [] else spacing.line level) ++ [0x5D]
  | value :: rest =>
    (if first then [] else [0x2C]) ++ spacing.line (level + 1) ++ spaced spacing (level + 1) value
      ++ spacedElements spacing level false rest

/-- The bytes of members up to the brace that closes them. -/
def spacedMembers (spacing : Spacing) (level : Nat) (first : Bool) : List (String × Json) → Bytes
  | [] => (if first then [] else spacing.line level) ++ [0x7D]
  | (name, value) :: rest =>
    (if first then [] else [0x2C]) ++ spacing.line (level + 1) ++ quotedBytes name
      ++ 0x3A :: spacing.colon ++ spaced spacing (level + 1) value
      ++ spacedMembers spacing level false rest

end

mutual

/-- Without blanks the bytes are those of the canonical text. -/
theorem spaced_none (level : Nat) : ∀ value, spaced .none level value = bytes value
  | .null | .bool _ | .number _ | .string _ => rfl
  | .array elements => by rw [spaced, bytes, spacedElements_none]
  | .object members => by rw [spaced, bytes, spacedMembers_none]

theorem spacedElements_none (level : Nat) (first : Bool) : ∀ elements,
    spacedElements .none level first elements = elementsBytes first elements ++ [0x5D]
  | [] => by cases first <;> rfl
  | value :: rest => by
    rw [spacedElements, elementsBytes, spaced_none, spacedElements_none]
    simp [Spacing.none]

theorem spacedMembers_none (level : Nat) (first : Bool) : ∀ members,
    spacedMembers .none level first members = entriesBytes first members ++ [0x7D]
  | [] => by cases first <;> rfl
  | (name, value) :: rest => by
    rw [spacedMembers, entriesBytes, spaced_none, spacedMembers_none]
    simp [Spacing.none]

end

theorem skipBlanks_blanks {blanks : Bytes} (blank : ∀ b ∈ blanks, isBlank b = true)
    (rest : Bytes) : skipBlanks (blanks ++ rest) = skipBlanks rest := by
  induction blanks with
  | nil => rfl
  | cons b blanks ih =>
    rw [List.cons_append, skipBlanks, blank b List.mem_cons_self, if_pos rfl]
    exact ih fun b present => blank b (List.mem_cons_of_mem _ present)

/-- A number ends where blanks begin, or else with what is behind them. -/
theorem endsNumber_blanks {blanks rest : Bytes} (blank : ∀ b ∈ blanks, isBlank b = true)
    (ends : EndsNumber rest) : EndsNumber (blanks ++ rest) := by
  cases blanks with
  | nil => exact ends
  | cons b blanks =>
    have is := blank b List.mem_cons_self
    simp only [isBlank, Bool.or_eq_true, decide_eq_true_eq] at is
    rcases is with ((rfl | rfl) | rfl) | rfl <;> exact endsNumber_of rfl (by decide) rfl _

section Spaced

variable (spacing : Spacing) (level : Nat)

theorem endsNumber_spacedElements (elements : List Json) (rest : Bytes) :
    EndsNumber (spacedElements spacing level false elements ++ rest) := by
  cases elements with
  | nil =>
    rw [spacedElements, List.append_assoc]
    exact endsNumber_blanks (spacing.line_blank level) (endsNumber_of rfl (by decide) rfl _)
  | cons value elements =>
    rw [spacedElements, List.append_assoc, List.append_assoc, List.append_assoc]
    exact endsNumber_of rfl (by decide) rfl _

theorem endsNumber_spacedMembers (members : List (String × Json)) (rest : Bytes) :
    EndsNumber (spacedMembers spacing level false members ++ rest) := by
  cases members with
  | nil =>
    rw [spacedMembers, List.append_assoc]
    exact endsNumber_blanks (spacing.line_blank level) (endsNumber_of rfl (by decide) rfl _)
  | cons member members =>
    obtain ⟨name, value⟩ := member
    simp only [spacedMembers, List.append_assoc]
    exact endsNumber_of rfl (by decide) rfl _

theorem beginsValue_spaced {levels : Nat} {value : Json} (kept : Kept levels value) :
    BeginsValue (spaced spacing level value) := by
  cases kept with
  | array _ => exact ⟨_, _, rfl, by decide, by decide⟩
  | object _ _ => exact ⟨_, _, rfl, by decide, by decide⟩
  | null => exact beginsValue_bytes (.null : Kept levels _)
  | bool value => exact beginsValue_bytes (.bool value : Kept levels _)
  | number kept => exact beginsValue_bytes (.number kept : Kept levels _)
  | string value => exact beginsValue_bytes (.string value : Kept levels _)

theorem length_lt_spacedElements {elements : List Json}
    (begins : ∀ value ∈ elements, BeginsValue (spaced spacing (level + 1) value)) (first : Bool) :
    elements.length < (spacedElements spacing level first elements).length := by
  induction elements generalizing first with
  | nil => simp [spacedElements]
  | cons value elements ih =>
    have further := ih (fun value present => begins value (List.mem_cons_of_mem _ present)) false
    obtain ⟨b, rest, is, -, -⟩ := begins value List.mem_cons_self
    rw [spacedElements, is]
    simp only [List.length_append, List.length_cons]
    omega

theorem length_lt_spacedMembers (members : List (String × Json)) (first : Bool) :
    members.length < (spacedMembers spacing level first members).length := by
  induction members generalizing first with
  | nil => simp [spacedMembers]
  | cons member members ih =>
    obtain ⟨name, value⟩ := member
    have further := ih false
    rw [spacedMembers]
    simp only [List.length_append, List.length_cons]
    omega

theorem length_spaced_le_elements {elements : List Json} {value : Json}
    (present : value ∈ elements) (first : Bool) :
    (spaced spacing (level + 1) value).length ≤
      (spacedElements spacing level first elements).length := by
  induction elements generalizing first with
  | nil => exact absurd present List.not_mem_nil
  | cons head elements ih =>
    rw [spacedElements]
    simp only [List.length_append]
    rcases List.mem_cons.1 present with rfl | present
    · omega
    · have := ih present false
      omega

theorem length_spaced_le_members {members : List (String × Json)} {entry : String × Json}
    (present : entry ∈ members) (first : Bool) :
    (spaced spacing (level + 1) entry.2).length ≤
      (spacedMembers spacing level first members).length := by
  induction members generalizing first with
  | nil => exact absurd present List.not_mem_nil
  | cons head members ih =>
    obtain ⟨name, value⟩ := head
    rw [spacedMembers]
    simp only [List.length_append, List.length_cons]
    rcases List.mem_cons.1 present with rfl | present
    · dsimp only
      omega
    · have := ih present false
      omega

/-! ## Reading lists -/

variable {spacing level} {readValue : Bytes → Except Stop (Json × Bytes)}

/-- A reader reads a value back from some bytes, wherever they stand. -/
def ReadsBack (readValue : Bytes → Except Stop (Json × Bytes)) (value : Json) (input : Bytes) :
    Prop :=
  BeginsValue input ∧
    ∀ rest, EndsNumber rest → readValue (input ++ rest) = .ok (value.reread, rest)

theorem ReadsBack.skipBlanks {value : Json} {input : Bytes}
    (reads : ReadsBack readValue value input) {blanks : Bytes}
    (blank : ∀ b ∈ blanks, isBlank b = true) (rest : Bytes) :
    Json.skipBlanks (blanks ++ (input ++ rest)) = input ++ rest := by
  rw [skipBlanks_blanks blank, skipBlanks_of_begins (reads.1.append rest)]

theorem readElements_spaced (elements : List Json) (value : Json) (done : List Json)
    (reads : ∀ element ∈ value :: elements,
      ReadsBack readValue element (spaced spacing (level + 1) element))
    (count : Nat) (enough : elements.length < count) (rest : Bytes) :
    readElements readValue count done (spaced spacing (level + 1) value
        ++ (spacedElements spacing level false elements ++ rest)) =
      .ok (done.reverse ++ (value :: elements).map reread, rest) := by
  induction elements generalizing value done count with
  | nil =>
    cases count with
    | zero => exact absurd enough (Nat.not_lt_zero _)
    | succ count =>
      have read := (reads value List.mem_cons_self).2 _
        (endsNumber_spacedElements spacing level [] rest)
      have closing : skipBlanks (spacedElements spacing level false [] ++ rest) = 0x5D :: rest := by
        rw [spacedElements, List.append_assoc]
        exact skipBlanks_blanks (spacing.line_blank level) _
      rw [readElements, read]
      simp only [bind, Except.bind, closing, if_true]
      simp [pure, Except.pure]
  | cons next elements ih =>
    cases count with
    | zero => exact absurd enough (Nat.not_lt_zero _)
    | succ count =>
      have read := (reads value List.mem_cons_self).2 _
        (endsNumber_spacedElements spacing level (next :: elements) rest)
      have further := ih next (value.reread :: done)
        (fun element present => reads element (List.mem_cons_of_mem _ present)) count
        (Nat.lt_of_succ_lt_succ enough)
      have split : spacedElements spacing level false (next :: elements) ++ rest =
          0x2C :: (spacing.line (level + 1) ++ (spaced spacing (level + 1) next
            ++ (spacedElements spacing level false elements ++ rest))) := by
        simp [spacedElements]
      have nextReads := reads next (List.mem_cons_of_mem _ List.mem_cons_self)
      have blanks := nextReads.skipBlanks (spacing.line_blank (level + 1))
        (spacedElements spacing level false elements ++ rest)
      obtain ⟨b, behind, is, -, notClosing⟩ := nextReads.1.append
        (spacedElements spacing level false elements ++ rest)
      rw [readElements, read]
      simp only [bind, Except.bind, split, skipBlanks_comma, blanks]
      rw [is] at further ⊢
      simp only [notClosing, if_false, further]
      simp

theorem readMembers_spaced (members : List (String × Json)) (name : String) (value : Json)
    (done : List (String × Json))
    (reads : ∀ entry ∈ (name, value) :: members,
      ReadsBack readValue entry.2 (spaced spacing (level + 1) entry.2))
    (skips : ∀ blanks input, (∀ b ∈ blanks, isBlank b = true) →
      readValue (blanks ++ input) = readValue input)
    (count : Nat) (enough : members.length < count) (rest : Bytes) :
    readMembers readValue count done (quotedTail name ++ 0x3A :: (spacing.colon
        ++ (spaced spacing (level + 1) value
          ++ (spacedMembers spacing level false members ++ rest)))) =
      .ok (done.reverse ++ ((name, value) :: members).map fun entry => (entry.1, entry.2.reread),
        rest) := by
  induction members generalizing name value done count with
  | nil =>
    cases count with
    | zero => exact absurd enough (Nat.not_lt_zero _)
    | succ count =>
      have read := (reads (name, value) List.mem_cons_self).2 _
        (endsNumber_spacedMembers spacing level [] rest)
      have closing : skipBlanks (spacedMembers spacing level false [] ++ rest) = 0x7D :: rest := by
        rw [spacedMembers, List.append_assoc]
        exact skipBlanks_blanks (spacing.line_blank level) _
      rw [readMembers, readString_quotedTail]
      simp only [bind, Except.bind, expectColon_colon, skips _ _ spacing.colon_blank, read, closing,
        if_true]
      simp [pure, Except.pure]
  | cons member members ih =>
    obtain ⟨nextName, nextValue⟩ := member
    cases count with
    | zero => exact absurd enough (Nat.not_lt_zero _)
    | succ count =>
      have read := (reads (name, value) List.mem_cons_self).2 _
        (endsNumber_spacedMembers spacing level ((nextName, nextValue) :: members) rest)
      have further := ih nextName nextValue ((name, value.reread) :: done)
        (fun entry present => reads entry (List.mem_cons_of_mem _ present)) count
        (Nat.lt_of_succ_lt_succ enough)
      have split : spacedMembers spacing level false ((nextName, nextValue) :: members) ++ rest =
          0x2C :: (spacing.line (level + 1) ++ 0x22 :: (quotedTail nextName ++ 0x3A ::
            (spacing.colon ++ (spaced spacing (level + 1) nextValue
              ++ (spacedMembers spacing level false members ++ rest))))) := by
        simp [spacedMembers, quotedBytes_eq]
      have comma : ¬ (0x2C : UInt8) = 0x7D := by decide
      rw [readMembers, readString_quotedTail]
      simp only [bind, Except.bind, expectColon_colon, skips _ _ spacing.colon_blank, read]
      simp only [split, skipBlanks_comma, comma, if_true, if_false,
        skipBlanks_blanks (spacing.line_blank (level + 1)), skipBlanks_quote, further]
      simp

/-- What follows the opening bracket of an array is read back. -/
theorem readArray_spaced {elements : List Json}
    (reads : ∀ value ∈ elements, ReadsBack readValue value (spaced spacing (level + 1) value))
    {count : Nat} (enough : elements.length ≤ count) (rest : Bytes) :
    readArray readValue count (spacedElements spacing level true elements ++ rest) =
      .ok (elements.map reread, rest) := by
  cases elements with
  | nil => rfl
  | cons value elements =>
    have first := reads value List.mem_cons_self
    have further := readElements_spaced elements value [] reads count enough rest
    have split : spacedElements spacing level true (value :: elements) ++ rest =
        spacing.line (level + 1) ++ (spaced spacing (level + 1) value
          ++ (spacedElements spacing level false elements ++ rest)) := by
      simp [spacedElements]
    have blanks := first.skipBlanks (spacing.line_blank (level + 1))
      (spacedElements spacing level false elements ++ rest)
    obtain ⟨b, behind, is, -, notClosing⟩ := first.1.append
      (spacedElements spacing level false elements ++ rest)
    rw [readArray, split, blanks]
    rw [is] at further ⊢
    simp only [notClosing, if_false, further]
    rfl

/-- What follows the opening brace of an object is read back, its members in order. -/
theorem readObject_spaced {members : List (String × Json)}
    (reads : ∀ entry ∈ members, ReadsBack readValue entry.2 (spaced spacing (level + 1) entry.2))
    (skips : ∀ blanks input, (∀ b ∈ blanks, isBlank b = true) →
      readValue (blanks ++ input) = readValue input)
    {count : Nat} (enough : members.length ≤ count) (rest : Bytes) :
    readObject readValue count (spacedMembers spacing level true members ++ rest) =
      .ok (members.map fun entry => (entry.1, entry.2.reread), rest) := by
  cases members with
  | nil => rfl
  | cons member members =>
    obtain ⟨name, value⟩ := member
    have further := readMembers_spaced members name value [] reads skips count enough rest
    have split : spacedMembers spacing level true ((name, value) :: members) ++ rest =
        spacing.line (level + 1) ++ 0x22 :: (quotedTail name ++ 0x3A :: (spacing.colon
          ++ (spaced spacing (level + 1) value
            ++ (spacedMembers spacing level false members ++ rest)))) := by
      simp [spacedMembers, quotedBytes_eq]
    have quote : ¬ (0x22 : UInt8) = 0x7D := by decide
    rw [readObject, split, skipBlanks_blanks (spacing.line_blank (level + 1)), skipBlanks_quote]
    simp only [quote, if_true, if_false, further]
    rfl

end Spaced

/-! ## Reading values -/

/-- Whatever the number of levels, a value is told by its first byte. -/
theorem readValue_eq (count levels : Nat) :
    ∃ readArray readObject, readValue count levels = readWith readArray readObject := by
  cases levels <;> exact ⟨_, _, rfl⟩

theorem readValue_blanks (count levels : Nat) (blanks input : Bytes)
    (blank : ∀ b ∈ blanks, isBlank b = true) :
    readValue count levels (blanks ++ input) = readValue count levels input := by
  obtain ⟨readArray, readObject, is⟩ := readValue_eq count levels
  rw [is, readWith, readWith, skipBlanks_blanks blank]

theorem readValue_array (count levels : Nat) (input : Bytes) :
    readValue count (levels + 1) (0x5B :: input) = (do
      let (elements, rest) ← readArray (readValue count levels) count input
      return (.array elements, rest)) := rfl

theorem readValue_object (count levels : Nat) (input : Bytes) :
    readValue count (levels + 1) (0x7B :: input) = (do
      let (members, rest) ← readObject (readValue count levels) count input
      return (.object (NameMap.ofList members), rest)) := rfl

/-- **The text of a value is read back**, whatever blanks stand between its tokens, each of its
doubles as the one its decimal is read as. -/
theorem readValue_spaced (spacing : Spacing) {levels : Nat} {value : Json}
    (kept : Kept levels value) (count level : Nat)
    (enough : (spaced spacing level value).length ≤ count) :
    ∀ rest, EndsNumber rest →
      readValue count levels (spaced spacing level value ++ rest) = .ok (value.reread, rest) := by
  induction kept generalizing level with
  | @null levels =>
    intro rest _
    obtain ⟨readArray, readObject, is⟩ := readValue_eq count levels
    rw [is]
    rfl
  | @bool levels value =>
    intro rest _
    obtain ⟨readArray, readObject, is⟩ := readValue_eq count levels
    rw [is]
    cases value <;> rfl
  | @number levels value kept =>
    intro rest ends
    obtain ⟨readArray, readObject, is⟩ := readValue_eq count levels
    rw [is]
    exact readWith_number readArray readObject kept ends
  | @string levels value =>
    intro rest _
    exact readValue_quotedBytes count levels value rest
  | @array levels elements kept ih =>
    intro rest _
    rw [spaced, List.length_cons] at enough
    have reads : ∀ value ∈ elements,
        ReadsBack (readValue count levels) value (spaced spacing (level + 1) value) := by
      intro value present
      have := length_spaced_le_elements spacing level present true
      exact ⟨beginsValue_spaced spacing _ (kept value present), ih value present _ (by omega)⟩
    have short :=
      length_lt_spacedElements spacing level (fun value present => (reads value present).1) true
    rw [spaced, List.cons_append, readValue_array, readArray_spaced reads (by omega), reread,
      rereadElements_eq]
    rfl
  | @object levels members sorted kept ih =>
    intro rest _
    rw [spaced, List.length_cons] at enough
    have reads : ∀ entry ∈ members,
        ReadsBack (readValue count levels) entry.2 (spaced spacing (level + 1) entry.2) := by
      intro entry present
      have := length_spaced_le_members spacing level present true
      exact ⟨beginsValue_spaced spacing _ (kept entry present), ih entry present _ (by omega)⟩
    have short := length_lt_spacedMembers spacing level members true
    rw [spaced, List.cons_append, readValue_object,
      readObject_spaced reads (readValue_blanks count levels) (by omega), reread, rereadMembers_eq]
    have inOrder := NameMap.sorted_map (f := fun entry => (entry.1, reread entry.2))
      (fun _ => rfl) sorted
    simp only [bind, Except.bind, NameMap.ofList_of_sorted _ inOrder]
    rfl

/-- Reading the text of a value with blanks between its tokens. -/
theorem readText_spaced {spacing : Spacing} {level : Nat} {value : Json} {text : String}
    (kept : Kept greatestDepth value) (is : Utf8.encode text = spaced spacing level value) :
    readText text = .ok value.reread := by
  have read := readValue_spaced spacing kept ((spaced spacing level value).length + 1) level
    (Nat.le_succ _) [] nofun
  rw [List.append_nil] at read
  rw [readText, is, Json.read, runStep, read]
  rfl

/-- **Reading the text of a value.** -/
theorem readText_text {value : Json} (kept : Kept greatestDepth value) :
    readText value.text = .ok value.reread :=
  readText_spaced kept ((encode_text value).trans (spaced_none 0 value).symm)

/-- **Reading the members of an object's text**, which come in the order they stand in, sorted or
not. -/
theorem readMembersText_text {members : List (String × Json)}
    (kept : ∀ entry ∈ members, Kept (greatestDepth - 1) entry.2) :
    readMembersText (Json.object members).text =
      .ok (members.map fun entry => (entry.1, entry.2.reread)) := by
  have brace : ∀ rest, skipBlanks (0x7B :: rest) = 0x7B :: rest := fun _ => rfl
  have read : readObject (readValue ((Json.object members).bytes.length + 1) (greatestDepth - 1))
      ((Json.object members).bytes.length + 1) (spacedMembers .none 0 true members ++ []) =
        .ok (members.map fun entry => (entry.1, entry.2.reread), []) := by
    rw [← spaced_none 0, spaced, List.length_cons]
    refine readObject_spaced (fun entry present => ?_) (readValue_blanks _ _) ?_ _
    · have := length_spaced_le_members .none 0 present true
      exact ⟨beginsValue_spaced .none _ (kept entry present),
        readValue_spaced .none (kept entry present) _ _ (by omega)⟩
    · have := length_lt_spacedMembers .none 0 members true
      omega
  rw [List.append_nil, spacedMembers_none] at read
  rw [readMembersText, encode_text, runStep, readMembersValue, bytes, brace]
  simp only [if_true]
  rw [← bytes, read]
  rfl

/-- An object whose members are strings is read back as it is. -/
theorem readMembersText_strings (members : List (String × String)) :
    readMembersText (Json.object (strings members)).text = .ok (strings members) := by
  rw [readMembersText_text]
  · simp [strings, reread]
  · intro entry present
    obtain ⟨member, -, rfl⟩ := List.mem_map.1 present
    exact .string member.2

end EngineBridge.Json
