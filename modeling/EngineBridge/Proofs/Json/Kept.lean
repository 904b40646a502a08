import EngineBridge.Proofs.Basic
import EngineBridge.Proofs.Json.Values
/-!
# What reading gives

Whatever is read is kept in a form that can be written and read again: integers are those of a
64-bit word, doubles are canonical, members are in order, and no more containers are nested than
may be opened (`kept_of_readText`).  A value none of whose numbers is a double is read from its text
as it is (`Whole.reread`).
-/

namespace EngineBridge.Json

/-- What a reading step answers, if it answers, has a property. -/
def Gives {α : Type} (P : α → Prop) (step : Except Stop (α × Bytes)) : Prop :=
  ∀ value rest, step = .ok (value, rest) → P value

section Gives

variable {α β : Type} {P : α → Prop} {Q : β → Prop}

theorem gives_error (stop : Stop) : Gives P (.error stop) := nofun

theorem gives_stopBefore (cause : Cause) (rest : Bytes) : Gives P (stopBefore cause rest) := nofun

theorem gives_stopAtEnd (cause : Cause) : Gives P (stopAtEnd cause) := nofun

theorem gives_ok (value : α) (rest : Bytes) (holds : P value) : Gives P (.ok (value, rest)) := by
  rintro _ _ ⟨⟩
  exact holds

/-- What is made of an answer with a property. -/
theorem Gives.bind {step : Except Stop (α × Bytes)} {next : α × Bytes → Except Stop (β × Bytes)}
    (gives : Gives P step) (further : ∀ value rest, P value → Gives Q (next (value, rest))) :
    Gives Q (step >>= next) := by
  cases step with
  | error stop => exact gives_error stop
  | ok result => exact further result.1 result.2 (gives _ _ rfl)

theorem gives_any (step : Except Stop (α × Bytes)) : Gives (fun _ => True) step :=
  fun _ _ _ => trivial

end Gives

/-! ## Numbers -/

section Numbers

variable (negative : Bool)

theorem finishFloat_kept (significand : Nat) (exponent : Int) (rest : Bytes) :
    Gives JsonNumber.Kept (finishFloat negative significand exponent rest) := by
  rw [finishFloat]
  split
  · rename_i magnitude is
    exact gives_ok (P := JsonNumber.Kept) (.float ⟨negative, magnitude⟩) rest
      (Magnitude.ofDecimal_canonical is)
  · exact gives_stopBefore _ _

theorem readExponentDigits_kept (significand : Nat) (exponent : Int) (down : Bool) (power : Nat)
    (input : Bytes) :
    Gives JsonNumber.Kept (readExponentDigits negative significand exponent down power input) := by
  induction input generalizing power with
  | nil => exact finishFloat_kept negative _ _ _
  | cons b rest ih =>
    rw [readExponentDigits]
    split
    · split
      · exact ih _
      · split
        · exact gives_stopBefore _ _
        · exact gives_ok (P := JsonNumber.Kept) (.float ⟨negative, .zero⟩) _ Magnitude.zero_canonical
    · exact finishFloat_kept negative _ _ _

theorem readExponentFirst_kept (significand : Nat) (exponent : Int) (down : Bool) (input : Bytes) :
    Gives JsonNumber.Kept (readExponentFirst negative significand exponent down input) := by
  cases input with
  | nil => exact gives_stopAtEnd _
  | cons b rest =>
    rw [readExponentFirst]
    split
    · exact readExponentDigits_kept negative _ _ _ _ _
    · exact gives_stopBefore _ _

theorem readExponent_kept (significand : Nat) (exponent : Int) (input : Bytes) :
    Gives JsonNumber.Kept (readExponent negative significand exponent input) := by
  rw [readExponent.eq_def]
  split <;> exact readExponentFirst_kept negative _ _ _ _

theorem readFractionEnd_kept (significand : Nat) (exponent : Int) (input : Bytes) :
    Gives JsonNumber.Kept (readFractionEnd negative significand exponent input) := by
  cases input with
  | nil => exact finishFloat_kept negative _ _ _
  | cons b rest =>
    rw [readFractionEnd]
    split
    · exact readExponent_kept negative _ _ _
    · exact finishFloat_kept negative _ _ _

theorem readFraction_kept (significand : Nat) (exponent : Int) (any : Bool) (input : Bytes) :
    Gives JsonNumber.Kept (readFraction negative significand exponent any input) := by
  induction input generalizing significand exponent any with
  | nil =>
    rw [readFraction]
    split
    · exact readFractionEnd_kept negative _ _ _
    · exact gives_stopAtEnd _
  | cons b rest ih =>
    rw [readFraction]
    split
    · split
      · exact ih _ _ _
      · exact readFractionEnd_kept negative _ _ _
    · split
      · exact readFractionEnd_kept negative _ _ _
      · exact gives_stopBefore _ _

theorem readLongInteger_kept (significand : Nat) (exponent : Int) (input : Bytes) :
    Gives JsonNumber.Kept (readLongInteger negative significand exponent input) := by
  induction input generalizing exponent with
  | nil => exact finishFloat_kept negative _ _ _
  | cons b rest ih =>
    rw [readLongInteger]
    split
    · exact ih _
    · split
      · exact readFraction_kept negative _ _ _ _
      · split
        · exact readExponent_kept negative _ _ _
        · exact finishFloat_kept negative _ _ _

/-- A significand of 64 bits is an integer that is kept, or a double. -/
theorem wholeNumber_kept {significand : Nat} (fits : significand ≤ greatestSignificand) :
    (wholeNumber negative significand).Kept := by
  rw [greatestSignificand] at fits
  rw [wholeNumber]
  split
  · split
    · exact Magnitude.zero_canonical
    · split
      · exact ⟨by omega, by omega⟩
      · rw [JsonNumber.Kept]
        dsimp only
        cases is : Magnitude.ofNat significand with
        | none => exact Magnitude.zero_canonical
        | some m => exact Magnitude.ofRatio_canonical Nat.one_pos is
  · exact ⟨by omega, by omega⟩

theorem readNumberEnd_kept {significand : Nat} (fits : significand ≤ greatestSignificand)
    (input : Bytes) : Gives JsonNumber.Kept (readNumberEnd negative significand input) := by
  cases input with
  | nil => exact gives_ok _ _ (wholeNumber_kept negative fits)
  | cons b rest =>
    rw [readNumberEnd]
    split
    · exact readFraction_kept negative _ _ _ _
    · split
      · exact readExponent_kept negative _ _ _
      · exact gives_ok _ _ (wholeNumber_kept negative fits)

theorem readDigits_kept {significand : Nat} (fits : significand ≤ greatestSignificand)
    (input : Bytes) : Gives JsonNumber.Kept (readDigits negative significand input) := by
  induction input generalizing significand with
  | nil => exact readNumberEnd_kept negative fits _
  | cons b rest ih =>
    rw [readDigits]
    split
    · split
      · rename_i fits
        exact ih fits
      · exact readLongInteger_kept negative _ _ _
    · exact readNumberEnd_kept negative fits _

theorem readAfterZero_kept (input : Bytes) :
    Gives JsonNumber.Kept (readAfterZero negative input) := by
  cases input with
  | nil => exact readNumberEnd_kept negative (Nat.zero_le _) []
  | cons b rest =>
    rw [readAfterZero]
    split
    · exact gives_stopBefore _ _
    · exact readNumberEnd_kept negative (Nat.zero_le _) _

theorem digit?_le {b : UInt8} {d : Nat} (digit : digit? b = some d) : d ≤ 9 := by
  obtain ⟨low, high⟩ := digit?_bounds digit
  rw [digit?] at digit
  split at digit
  · obtain rfl := Option.some.inj digit
    omega
  · simp at digit

/-- **Reading gives numbers that are kept.** -/
theorem readNumber_kept (input : Bytes) : Gives JsonNumber.Kept (readNumber negative input) := by
  cases input with
  | nil => exact gives_stopAtEnd _
  | cons b rest =>
    rw [readNumber]
    split
    · exact readAfterZero_kept negative _
    · rename_i d _ digit
      have small := digit?_le digit
      exact readDigits_kept negative (Nat.le_trans small (by decide)) _
    · exact gives_stopBefore _ _

end Numbers

/-! ## Values -/

section Values

variable {levels : Nat} {readValue : Bytes → Except Stop (Json × Bytes)}

theorem gives_word {P : Json → Prop} {value : Json} (holds : P value) (word input : Bytes) :
    Gives P (do return (value, ← expectWord word input)) := by
  cases expectWord word input with
  | error stop => exact gives_error stop
  | ok rest => exact gives_ok value rest holds

/-- What holds of words, numbers and strings, of arrays, and of the objects that are read behind a
brace, holds of what is read. -/
theorem readWith_gives {P : Json → Prop} {readArray readObject : Bytes → Except Stop (Json × Bytes)}
    (null : P .null) (bool : ∀ value, P (.bool value))
    (number : ∀ value, value.Kept → P (.number value)) (string : ∀ value, P (.string value))
    (arrays : ∀ input, Gives P (readArray input)) {input : Bytes}
    (objects : ∀ behind, skipBlanks input = 0x7B :: behind → Gives P (readObject behind)) :
    Gives P (readWith readArray readObject input) := by
  rw [readWith]
  split
  · exact gives_stopAtEnd _
  · rename_i b behind begins
    split
    · exact (gives_any _).bind fun value rest _ => gives_ok _ _ (string value)
    · split
      · exact arrays _
      · split
        · rename_i brace
          exact objects behind (brace ▸ begins)
        · split
          · exact (readNumber_kept true _).bind fun value rest kept =>
              gives_ok _ _ (number value kept)
          · split
            · exact (readNumber_kept false _).bind fun value rest kept =>
                gives_ok _ _ (number value kept)
            · split
              · exact gives_word null _ _
              · split
                · exact gives_word (bool true) _ _
                · split
                  · exact gives_word (bool false) _ _
                  · exact gives_stopBefore _ _

theorem readWith_kept {readArray readObject : Bytes → Except Stop (Json × Bytes)}
    (arrays : ∀ input, Gives (Kept levels) (readArray input))
    (objects : ∀ input, Gives (Kept levels) (readObject input)) (input : Bytes) :
    Gives (Kept levels) (readWith readArray readObject input) :=
  readWith_gives .null .bool (fun _ => .number) .string arrays fun behind _ => objects behind

theorem readElements_kept (values : ∀ input, Gives (Kept levels) (readValue input)) (count : Nat)
    {done : List Json} (before : ∀ value ∈ done, Kept levels value) (input : Bytes) :
    Gives (fun elements => ∀ value ∈ elements, Kept levels value)
      (readElements readValue count done input) := by
  induction count generalizing done input with
  | zero => exact gives_stopAtEnd _
  | succ count ih =>
    rw [readElements]
    refine (values input).bind fun value rest kept => ?_
    have all : ∀ element ∈ value :: done, Kept levels element := by
      intro element present
      rcases List.mem_cons.1 present with rfl | present
      · exact kept
      · exact before element present
    dsimp only
    split
    · exact gives_stopAtEnd _
    · split
      · exact gives_ok _ _ fun element present => all element (List.mem_reverse.1 present)
      · split
        · split
          · exact gives_stopAtEnd _
          · split
            · exact gives_stopBefore _ _
            · exact ih all _
        · exact gives_stopBefore _ _

theorem readArray_kept (values : ∀ input, Gives (Kept levels) (readValue input)) (count : Nat)
    (input : Bytes) :
    Gives (fun elements => ∀ value ∈ elements, Kept levels value)
      (readArray readValue count input) := by
  rw [readArray]
  split
  · exact gives_stopAtEnd _
  · split
    · exact gives_ok [] _ fun _ present => absurd present List.not_mem_nil
    · exact readElements_kept values count (fun _ present => absurd present List.not_mem_nil) _

theorem readMembers_kept (values : ∀ input, Gives (Kept levels) (readValue input)) (count : Nat)
    {done : List (String × Json)} (before : ∀ entry ∈ done, Kept levels entry.2) (input : Bytes) :
    Gives (fun members => ∀ entry ∈ members, Kept levels entry.2)
      (readMembers readValue count done input) := by
  induction count generalizing done input with
  | zero => exact gives_stopAtEnd _
  | succ count ih =>
    rw [readMembers]
    refine (gives_any _).bind fun name rest _ => ?_
    dsimp only
    cases expectColon rest with
    | error stop => exact gives_error stop
    | ok rest =>
      refine (values rest).bind fun value rest kept => ?_
      have all : ∀ entry ∈ (name, value) :: done, Kept levels entry.2 := by
        intro entry present
        rcases List.mem_cons.1 present with rfl | present
        · exact kept
        · exact before entry present
      dsimp only
      split
      · exact gives_stopAtEnd _
      · split
        · exact gives_ok _ _ fun entry present => all entry (List.mem_reverse.1 present)
        · split
          · split
            · exact gives_stopAtEnd _
            · split
              · exact ih all _
              · split <;> exact gives_stopBefore _ _
          · exact gives_stopBefore _ _

theorem readObject_kept (values : ∀ input, Gives (Kept levels) (readValue input)) (count : Nat)
    (input : Bytes) :
    Gives (fun members => ∀ entry ∈ members, Kept levels entry.2)
      (readObject readValue count input) := by
  rw [readObject]
  split
  · exact gives_stopAtEnd _
  · split
    · exact gives_ok [] _ fun _ present => absurd present List.not_mem_nil
    · split
      · exact readMembers_kept values count (fun _ present => absurd present List.not_mem_nil) _
      · exact gives_stopBefore _ _

end Values

/-- **Reading gives values that are kept.** -/
theorem readValue_kept (count levels : Nat) (input : Bytes) :
    Gives (Kept levels) (readValue count levels input) := by
  induction levels generalizing input with
  | zero => exact readWith_kept (fun _ => gives_stopBefore _ _) (fun _ => gives_stopBefore _ _) input
  | succ levels ih =>
    rw [readValue]
    refine readWith_kept (fun input => ?_) (fun input => ?_) input
    · exact (readArray_kept ih count input).bind fun elements rest kept =>
        gives_ok _ _ (.array kept)
    · refine (readObject_kept ih count input).bind fun members rest kept => gives_ok _ _ ?_
      exact .object (NameMap.sorted_ofList members) fun entry present =>
        kept entry (NameMap.mem_ofList members present)

/-- A step answers for a whole input if it leaves nothing but blanks. -/
theorem runStep_ok_iff {α : Type} {step : Bytes → Except Stop (α × Bytes)} {input : Bytes}
    {value : α} :
    runStep step input = .ok value ↔
      ∃ rest, step input = .ok (value, rest) ∧ expectEnd rest = .ok () := by
  rw [runStep]
  cases step input with
  | error stop => simp [bind, Except.bind]
  | ok result =>
    obtain ⟨value', rest⟩ := result
    cases atEnd : expectEnd rest with
    | error stop =>
      simp only [bind, Except.bind, atEnd, reduceCtorEq, Except.ok.injEq, Prod.mk.injEq, false_iff]
      rintro ⟨rest', ⟨-, rfl⟩, finished⟩
      rw [atEnd] at finished
      simp at finished
    | ok _ =>
      simp only [bind, Except.bind, atEnd, pure, Except.pure, Except.ok.injEq, Prod.mk.injEq]
      constructor
      · rintro rfl
        exact ⟨rest, ⟨rfl, rfl⟩, atEnd⟩
      · rintro ⟨rest', ⟨rfl, -⟩, -⟩
        rfl

theorem kept_of_read {input : Bytes} {value : Json} (is : Json.read input = .ok value) :
    Kept greatestDepth value := by
  obtain ⟨rest, step, -⟩ := runStep_ok_iff.1 is
  exact readValue_kept _ _ _ _ _ step

/-- **The value of a text is kept.** -/
theorem kept_of_readText {text : String} {value : Json} (is : readText text = .ok value) :
    Kept greatestDepth value :=
  kept_of_read is

/-- **The value of an object's text** has the members of the text, the last of each name. -/
theorem readText_of_readMembersText {text : String} {members : List (String × Json)}
    (all : readMembersText text = .ok members) :
    readText text = .ok (.object (NameMap.ofList members)) := by
  obtain ⟨rest, step, atEnd⟩ := runStep_ok_iff.1 all
  refine runStep_ok_iff.2 ⟨rest, ?_, atEnd⟩
  generalize Utf8.encode text = input at step ⊢
  rw [readMembersValue] at step
  rw [greatestDepth, readValue, readWith]
  split at step
  · simp [stopAtEnd] at step
  · split at step
    · rename_i brace
      subst brace
      have step : readObject (readValue (input.length + 1) 126) (input.length + 1) _ =
        .ok (members, rest) := step
      simp only [step]
      rfl
    · simp [stopBefore] at step

/-- Whether a value is an object. -/
def isObject : Json → Bool
  | .object _ => true
  | _ => false

/-- An object is what the reader of objects reads behind an opening brace. -/
theorem readWith_object {readArray readObject : Bytes → Except Stop (Json × Bytes)}
    (arrays : ∀ input, Gives (fun value => value.isObject = false) (readArray input))
    {input rest : Bytes} {members : List (String × Json)}
    (is : readWith readArray readObject input = .ok (.object members, rest)) :
    ∃ behind, skipBlanks input = 0x7B :: behind ∧
      readObject behind = .ok (.object members, rest) := by
  by_cases brace : ∃ behind, skipBlanks input = 0x7B :: behind
  · obtain ⟨behind, begins⟩ := brace
    rw [readWith, begins] at is
    exact ⟨behind, begins, is⟩
  · have gives : Gives (fun value => value.isObject = false)
        (readWith readArray readObject input) :=
      readWith_gives (P := fun value => value.isObject = false) rfl (fun _ => rfl)
        (fun _ _ => rfl) (fun _ => rfl) arrays fun behind begins => absurd ⟨behind, begins⟩ brace
    cases gives _ _ is

/-- A text is that of an object if its members can be read. -/
theorem readMembersText_of_readText {text : String} {object : List (String × Json)}
    (is : readText text = .ok (.object object)) : ∃ members, readMembersText text = .ok members := by
  obtain ⟨rest, step, atEnd⟩ := runStep_ok_iff.1 is
  rw [readMembersText]
  generalize Utf8.encode text = input at step ⊢
  rw [greatestDepth, readValue] at step
  obtain ⟨behind, begins, read⟩ := readWith_object (fun _ => (gives_any _).bind
    fun elements rest _ =>
      gives_ok (P := fun value => value.isObject = false) (array elements) rest rfl) step
  obtain ⟨⟨members, rest'⟩, all, made⟩ := bind_ok_iff.1 read
  cases made
  refine ⟨members, runStep_ok_iff.2 ⟨rest, ?_, atEnd⟩⟩
  rw [readMembersValue, begins]
  exact all

theorem kept_of_readMembersText {text : String} {members : List (String × Json)}
    (all : readMembersText text = .ok members) :
    ∀ entry ∈ members, Kept (greatestDepth - 1) entry.2 := by
  obtain ⟨rest, step, -⟩ := runStep_ok_iff.1 all
  rw [readMembersValue] at step
  split at step
  · simp [stopAtEnd] at step
  · split at step
    · exact readObject_kept (readValue_kept _ _) _ _ _ _ step
    · simp [stopBefore] at step

/-! ## Values without doubles -/

/-- No number of the value is a double. -/
inductive Whole : Json → Prop where
  | null : Whole .null
  | bool (value : Bool) : Whole (.bool value)
  | integer (value : Int) : Whole (.number (.integer value))
  | string (value : String) : Whole (.string value)
  | array {elements : List Json} (whole : ∀ value ∈ elements, Whole value) : Whole (.array elements)
  | object {members : List (String × Json)} (whole : ∀ entry ∈ members, Whole entry.2) :
      Whole (.object members)

/-- **A value without doubles is read from its text as it is.** -/
theorem Whole.reread {value : Json} (whole : Whole value) : value.reread = value := by
  induction whole with
  | null => rfl
  | bool value => rfl
  | integer value => rfl
  | string value => rfl
  | array _ ih =>
    rw [Json.reread, rereadElements_eq, List.map_congr_left ih, List.map_id']
  | object _ ih =>
    have same := List.map_congr_left fun (entry : String × Json) present =>
      congrArg (Prod.mk entry.1) (ih entry present)
    rw [Json.reread, rereadMembers_eq, same, List.map_id']

end EngineBridge.Json
