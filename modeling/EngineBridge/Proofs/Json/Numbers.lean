import Mathlib.Algebra.Group.Nat.Defs
import EngineBridge.Json.Reader
import EngineBridge.Proofs.Binary64.Reread
import EngineBridge.Proofs.Text.Utf8
/-!
# Reading back numbers

A run of digits is read as the number they write (`Nat.ofDigitChars`), wherever in a number it
stands.  From the three kinds of runs, before the point, after it and in the exponent, each of
the forms in which a number is written is read back: an integer as itself, a double as the one
its decimal is read as (`readWith_number`).
-/

namespace EngineBridge

/-- The number that is read from the text of one. -/
def JsonNumber.reread : JsonNumber → JsonNumber
  | .integer value => .integer value
  | .float value => .float value.reread

/-- The numbers that reading gives. -/
def JsonNumber.Kept : JsonNumber → Prop
  | .integer value => InRange value
  | .float value => value.magnitude.Canonical

theorem JsonNumber.Kept.reread {number : JsonNumber} (kept : number.Kept) : number.reread.Kept := by
  cases number with
  | integer value => exact kept
  | float value => exact (Magnitude.ofDecimal_reading kept).2

namespace Json

/-! ## Bytes of digits -/

/-- The bytes of characters that take one byte each. -/
def ascii (chars : List Char) : Bytes := chars.map fun c => UInt8.ofNat c.toNat

/-- All characters are decimal digits. -/
def Digits (chars : List Char) : Prop := ∀ c ∈ chars, c.isDigit = true

@[simp] theorem ascii_nil : ascii [] = [] := rfl

@[simp] theorem ascii_cons (c : Char) (chars : List Char) :
    ascii (c :: chars) = UInt8.ofNat c.toNat :: ascii chars := rfl

@[simp] theorem ascii_append (a b : List Char) : ascii (a ++ b) = ascii a ++ ascii b :=
  List.map_append

@[simp] theorem digits_nil : Digits [] := nofun

@[simp] theorem digits_cons {c : Char} {chars : List Char} :
    Digits (c :: chars) ↔ c.isDigit = true ∧ Digits chars := by
  simp [Digits]

@[simp] theorem digits_append {a b : List Char} : Digits (a ++ b) ↔ Digits a ∧ Digits b := by
  simp [Digits, or_imp, forall_and]

theorem digits_toDigits (n : Nat) : Digits (Nat.toDigits 10 n) :=
  fun _ present => Nat.isDigit_of_mem_toDigits (by decide) (by decide) present

theorem digits_replicate (n : Nat) : Digits (List.replicate n '0') := by
  intro c present
  rw [List.eq_of_mem_replicate present]
  decide

theorem isDigit_toNat {c : Char} (digit : c.isDigit = true) : 48 ≤ c.toNat ∧ c.toNat ≤ 57 := by
  rw [Char.isDigit, Bool.and_eq_true, decide_eq_true_iff, decide_eq_true_iff] at digit
  exact ⟨UInt32.le_iff_toNat_le.1 digit.1, UInt32.le_iff_toNat_le.1 digit.2⟩

theorem encode_digits {chars : List Char} (digits : Digits chars) :
    Utf8.encode (String.ofList chars) = ascii chars := by
  rw [Utf8.encode_ofList]
  induction chars with
  | nil => rfl
  | cons c chars ih =>
    rw [digits_cons] at digits
    have low := (isDigit_toNat digits.1).2
    rw [List.flatMap_cons, Utf8.encodeChar_one (by omega), ih digits.2]
    rfl

theorem digit?_ofNat {c : Char} (digit : c.isDigit = true) :
    digit? (UInt8.ofNat c.toNat) = some (c.toNat - '0'.toNat) := by
  obtain ⟨low, high⟩ := isDigit_toNat digit
  have byte : (UInt8.ofNat c.toNat).toNat = c.toNat := Utf8.toNat_byte (by omega)
  have inRange : (0x30 : UInt8) ≤ UInt8.ofNat c.toNat ∧ UInt8.ofNat c.toNat ≤ 0x39 := by
    rw [UInt8.le_iff_toNat_le, UInt8.le_iff_toNat_le, byte]
    exact ⟨low, high⟩
  rw [digit?, if_pos (by simpa using inRange), byte]
  rfl

/-- Appending digits does not make a number smaller. -/
theorem le_ofDigitChars (chars : List Char) (init : Nat) :
    init ≤ Nat.ofDigitChars 10 chars init := by
  rw [Nat.ofDigitChars_eq_ofDigitChars_zero]
  exact Nat.le_trans (Nat.le_mul_of_pos_left _ (Nat.pow_pos (by decide))) (Nat.le_add_right _ _)

/-- A number other than zero does not begin with a zero. -/
theorem toDigits_pos {n : Nat} (positive : 0 < n) :
    ∃ c chars, Nat.toDigits 10 n = c :: chars ∧ c ≠ '0' := by
  induction n using Nat.strongRecOn with
  | ind n ih =>
    rw [Nat.toDigits_eq_if (by decide)]
    by_cases short : n < 10
    · rw [if_pos short]
      exact ⟨_, [], rfl, fun zero => absurd (Nat.digitChar_eq_zero.1 zero) (by omega)⟩
    · obtain ⟨c, chars, shown, nonzero⟩ := ih (n / 10) (by omega) (by omega)
      rw [if_neg short, shown]
      exact ⟨c, _, rfl, nonzero⟩

/-! ## Runs of digits -/

/-- What follows does not continue a run of digits. -/
def NoDigit (rest : Bytes) : Prop := ∀ b ∈ rest.head?, digit? b = none

/-- What follows does not continue a number. -/
def EndsNumber (rest : Bytes) : Prop :=
  ∀ b ∈ rest.head?, digit? b = none ∧ b ≠ 0x2E ∧ isExponentMark b = false

theorem EndsNumber.noDigit {rest : Bytes} (ends : EndsNumber rest) : NoDigit rest :=
  fun b head => (ends b head).1

theorem noDigit_point (rest : Bytes) : NoDigit (0x2E :: rest) := by
  rintro b ⟨⟩
  rfl

theorem noDigit_mark (rest : Bytes) : NoDigit (0x65 :: rest) := by
  rintro b ⟨⟩
  rfl

section Runs

variable (negative : Bool)

/-- Digits before the point are taken into the significand while they fit. -/
theorem readDigits_ascii {chars : List Char} (digits : Digits chars) {significand : Nat}
    (fits : Nat.ofDigitChars 10 chars significand ≤ greatestSignificand) (rest : Bytes) :
    readDigits negative significand (ascii chars ++ rest) =
      readDigits negative (Nat.ofDigitChars 10 chars significand) rest := by
  induction chars generalizing significand with
  | nil => simp
  | cons c chars ih =>
    rw [digits_cons] at digits
    rw [Nat.ofDigitChars_cons, Nat.mul_comm] at fits ⊢
    rw [ascii_cons, List.cons_append, readDigits, digit?_ofNat digits.1]
    dsimp only
    rw [if_pos (Nat.le_trans (le_ofDigitChars _ _) fits), ih digits.2 fits]

/-- So are digits after the point, each of which moves the exponent. -/
theorem readFraction_ascii {chars : List Char} (digits : Digits chars) {significand : Nat}
    (fits : Nat.ofDigitChars 10 chars significand ≤ greatestSignificand) (exponent : Int)
    (any : Bool) (rest : Bytes) :
    readFraction negative significand exponent any (ascii chars ++ rest) =
      readFraction negative (Nat.ofDigitChars 10 chars significand) (exponent - chars.length)
        (any || !chars.isEmpty) rest := by
  induction chars generalizing significand exponent any with
  | nil => simp
  | cons c chars ih =>
    rw [digits_cons] at digits
    rw [Nat.ofDigitChars_cons, Nat.mul_comm] at fits ⊢
    rw [ascii_cons, List.cons_append, readFraction, digit?_ofNat digits.1]
    dsimp only
    rw [if_pos (Nat.le_trans (le_ofDigitChars _ _) fits), ih digits.2 fits]
    congr 1
    · rw [List.length_cons]
      omega
    · simp

theorem readExponentDigits_ascii {chars : List Char} (digits : Digits chars) {power : Nat}
    (fits : Nat.ofDigitChars 10 chars power ≤ greatestExponent) (significand : Nat)
    (exponent : Int) (down : Bool) (rest : Bytes) :
    readExponentDigits negative significand exponent down power (ascii chars ++ rest) =
      readExponentDigits negative significand exponent down (Nat.ofDigitChars 10 chars power)
        rest := by
  induction chars generalizing power with
  | nil => simp
  | cons c chars ih =>
    rw [digits_cons] at digits
    rw [Nat.ofDigitChars_cons, Nat.mul_comm] at fits ⊢
    rw [ascii_cons, List.cons_append, readExponentDigits, digit?_ofNat digits.1]
    dsimp only
    rw [if_pos (Nat.le_trans (le_ofDigitChars _ _) fits), ih digits.2 fits]

/-! ## Where a run ends -/

theorem readDigits_end (significand : Nat) {rest : Bytes} (noDigit : NoDigit rest) :
    readDigits negative significand rest = readNumberEnd negative significand rest := by
  cases rest with
  | nil => rfl
  | cons b rest =>
    rw [readDigits, noDigit b rfl]

theorem readAfterZero_end {rest : Bytes} (noDigit : NoDigit rest) :
    readAfterZero negative rest = readNumberEnd negative 0 rest := by
  cases rest with
  | nil => rfl
  | cons b rest =>
    rw [readAfterZero, noDigit b rfl]
    rfl

theorem readFraction_end (significand : Nat) (exponent : Int) {rest : Bytes}
    (noDigit : NoDigit rest) :
    readFraction negative significand exponent true rest =
      readFractionEnd negative significand exponent rest := by
  cases rest with
  | nil => rfl
  | cons b rest =>
    rw [readFraction, noDigit b rfl]
    rfl

theorem readExponentDigits_end (significand : Nat) (exponent : Int) (down : Bool) (power : Nat)
    {rest : Bytes} (noDigit : NoDigit rest) :
    readExponentDigits negative significand exponent down power rest =
      finishFloat negative significand (if down then exponent - power else exponent + power)
        rest := by
  cases rest with
  | nil => rfl
  | cons b rest =>
    rw [readExponentDigits, noDigit b rfl]

theorem readNumberEnd_end (significand : Nat) {rest : Bytes} (ends : EndsNumber rest) :
    readNumberEnd negative significand rest = .ok (wholeNumber negative significand, rest) := by
  cases rest with
  | nil => rfl
  | cons b rest =>
    obtain ⟨-, point, mark⟩ := ends b rfl
    rw [readNumberEnd, if_neg point, mark]
    rfl

theorem readFractionEnd_end (significand : Nat) (exponent : Int) {rest : Bytes}
    (ends : EndsNumber rest) :
    readFractionEnd negative significand exponent rest =
      finishFloat negative significand exponent rest := by
  cases rest with
  | nil => rfl
  | cons b rest =>
    rw [readFractionEnd, (ends b rfl).2.2]
    rfl

theorem readNumberEnd_point (significand : Nat) (rest : Bytes) :
    readNumberEnd negative significand (0x2E :: rest) =
      readFraction negative significand 0 false rest := rfl

theorem readNumberEnd_mark (significand : Nat) (rest : Bytes) :
    readNumberEnd negative significand (0x65 :: rest) =
      readExponent negative significand 0 rest := rfl

theorem readFractionEnd_mark (significand : Nat) (exponent : Int) (rest : Bytes) :
    readFractionEnd negative significand exponent (0x65 :: rest) =
      readExponent negative significand exponent rest := rfl

/-! ## The parts of a number -/

/-- Digits that do not begin with a zero are the whole part of a number. -/
theorem readNumber_ascii {c : Char} {chars : List Char} (digits : Digits (c :: chars))
    (nonzero : c ≠ '0') (fits : Nat.ofDigitChars 10 (c :: chars) 0 ≤ greatestSignificand)
    {rest : Bytes} (noDigit : NoDigit rest) :
    readNumber negative (ascii (c :: chars) ++ rest) =
      readNumberEnd negative (Nat.ofDigitChars 10 (c :: chars) 0) rest := by
  rw [digits_cons] at digits
  rw [Nat.ofDigitChars_cons, Nat.mul_zero, Nat.zero_add] at fits ⊢
  obtain ⟨value, is⟩ : ∃ n, c.toNat - '0'.toNat = n + 1 := by
    have low := (isDigit_toNat digits.1).1
    have other : c.toNat ≠ 48 := fun same => nonzero (Char.toNat_inj.1 same)
    exact ⟨c.toNat - 49, by simp only [Char.reduceToNat]; omega⟩
  rw [ascii_cons, List.cons_append, readNumber, digit?_ofNat digits.1, is]
  rw [is] at fits
  change readDigits negative (value + 1) (ascii chars ++ rest) = _
  rw [readDigits_ascii negative digits.2 fits, readDigits_end negative _ noDigit]

/-- The digits of a number are the whole part of one. -/
theorem readNumber_toDigits {n : Nat} (fits : n ≤ greatestSignificand) {rest : Bytes}
    (noDigit : NoDigit rest) :
    readNumber negative (ascii (Nat.toDigits 10 n) ++ rest) = readNumberEnd negative n rest := by
  rcases Nat.eq_zero_or_pos n with rfl | positive
  · exact readAfterZero_end negative noDigit
  · obtain ⟨c, chars, shown, nonzero⟩ := toDigits_pos positive
    have digits := digits_toDigits n
    have value : Nat.ofDigitChars 10 (Nat.toDigits 10 n) 0 = n := Nat.ofDigitChars_ten_toDigits
    rw [shown] at digits value ⊢
    rw [readNumber_ascii negative digits nonzero (by rwa [value]) noDigit, value]

/-- Digits after the point, at least one of them. -/
theorem readFraction_digits {chars : List Char} (digits : Digits chars) (some' : chars ≠ [])
    {significand : Nat} (fits : Nat.ofDigitChars 10 chars significand ≤ greatestSignificand)
    (exponent : Int) {rest : Bytes} (noDigit : NoDigit rest) :
    readFraction negative significand exponent false (ascii chars ++ rest) =
      readFractionEnd negative (Nat.ofDigitChars 10 chars significand) (exponent - chars.length)
        rest := by
  have any : (false || !chars.isEmpty) = true := by simpa using some'
  rw [readFraction_ascii negative digits fits, any, readFraction_end negative _ _ noDigit]

theorem readExponent_signed (significand : Nat) (exponent : Int) {shift : Int}
    (fits : shift.natAbs ≤ greatestExponent) {rest : Bytes} (noDigit : NoDigit rest) :
    readExponent negative significand exponent
        ((if shift < 0 then 0x2D else 0x2B) :: (ascii (Nat.toDigits 10 shift.natAbs) ++ rest)) =
      finishFloat negative significand (exponent + shift) rest := by
  have first : ∀ down, readExponentFirst negative significand exponent down
        (ascii (Nat.toDigits 10 shift.natAbs) ++ rest) =
      finishFloat negative significand
        (if down then exponent - shift.natAbs else exponent + shift.natAbs) rest := by
    intro down
    have digits := digits_toDigits shift.natAbs
    have value : Nat.ofDigitChars 10 (Nat.toDigits 10 shift.natAbs) 0 = shift.natAbs :=
      Nat.ofDigitChars_ten_toDigits
    obtain ⟨c, chars, shown⟩ := List.exists_cons_of_ne_nil
      (Nat.toDigits_ne_nil (n := shift.natAbs) (b := 10))
    rw [shown] at digits value ⊢
    rw [digits_cons] at digits
    rw [Nat.ofDigitChars_cons, Nat.mul_zero, Nat.zero_add] at value
    rw [ascii_cons, List.cons_append, readExponentFirst, digit?_ofNat digits.1]
    dsimp only
    rw [readExponentDigits_ascii negative digits.2 (by rwa [value]), value,
      readExponentDigits_end negative _ _ _ _ noDigit]
  by_cases down : shift < 0
  · have is : exponent - shift.natAbs = exponent + shift := by omega
    rw [if_pos down, readExponent, first true, if_pos rfl, is]
  · have is : exponent + shift.natAbs = exponent + shift := by omega
    rw [if_neg down, readExponent, first false]
    simp only [Bool.false_eq_true, if_false]
    rw [is]

end Runs

/-! ## Decimals -/

section Decimals

variable (negative : Bool) {d : Decimal} {rest : Bytes}

theorem readNumber_point {c : Char} {chars : List Char} (digits : Digits (c :: chars))
    (nonzero : c ≠ '0') {places : List Char} (digits' : Digits places) (some' : places ≠ [])
    (fits : Nat.ofDigitChars 10 (c :: chars ++ places) 0 ≤ greatestSignificand)
    (ends : EndsNumber rest) :
    readNumber negative (ascii (c :: chars) ++ 0x2E :: (ascii places ++ rest)) =
      finishFloat negative (Nat.ofDigitChars 10 (c :: chars ++ places) 0) (-places.length) rest := by
  rw [Nat.ofDigitChars_append] at fits ⊢
  rw [readNumber_ascii negative digits nonzero (Nat.le_trans (le_ofDigitChars _ _) fits)
      (noDigit_point _),
    readNumberEnd_point, readFraction_digits negative digits' some' fits 0 ends.noDigit,
    readFractionEnd_end negative _ _ ends, Int.zero_sub]

theorem readNumber_zeroPoint {places : List Char} (digits : Digits places) (some' : places ≠ [])
    (fits : Nat.ofDigitChars 10 places 0 ≤ greatestSignificand) (ends : EndsNumber rest) :
    readNumber negative (0x30 :: 0x2E :: (ascii places ++ rest)) =
      finishFloat negative (Nat.ofDigitChars 10 places 0) (-places.length) rest := by
  have whole : readNumber negative (0x30 :: 0x2E :: (ascii places ++ rest)) =
      readNumberEnd negative 0 (0x2E :: (ascii places ++ rest)) :=
    readAfterZero_end negative (noDigit_point _)
  rw [whole, readNumberEnd_point, readFraction_digits negative digits some' fits 0 ends.noDigit,
    readFractionEnd_end negative _ _ ends, Int.zero_sub]

/-- A whole number and its zeros, written with a zero after the point. -/
theorem readNumber_whole (positive : 0 < d.digits) (whole : 0 ≤ d.exponent)
    (fits : d.digits * 10 ^ (d.exponent.toNat + 1) ≤ greatestSignificand) (ends : EndsNumber rest) :
    readNumber negative (Utf8.encode d.positional ++ rest) =
      finishFloat negative (d.digits * 10 ^ (d.exponent.toNat + 1)) (-1) rest := by
  obtain ⟨c, chars, shown, nonzero⟩ := toDigits_pos positive
  have digits : Digits (Nat.toDigits 10 d.digits ++ List.replicate d.exponent.toNat '0') :=
    digits_append.2 ⟨digits_toDigits _, digits_replicate _⟩
  have text : Utf8.encode d.positional ++ rest =
      ascii (Nat.toDigits 10 d.digits ++ List.replicate d.exponent.toNat '0') ++
        0x2E :: (ascii ['0'] ++ rest) := by
    rw [Decimal.positional, if_pos whole, d.digitText_eq, Decimal.zeros, ← String.ofList_append,
      Utf8.encode_append, encode_digits digits, List.append_assoc]
    rfl
  have value : Nat.ofDigitChars 10
      (Nat.toDigits 10 d.digits ++ List.replicate d.exponent.toNat '0' ++ ['0']) 0
      = d.digits * 10 ^ (d.exponent.toNat + 1) := by
    rw [Nat.ofDigitChars_append, Nat.ofDigitChars_append, Nat.ofDigitChars_ten_toDigits,
      Nat.ofDigitChars_replicate_zero, Nat.pow_succ, Nat.mul_comm d.digits, Nat.mul_comm _ 10,
      Nat.mul_assoc]
    rfl
  rw [text]
  rw [← value] at fits ⊢
  rw [shown, List.cons_append] at digits fits ⊢
  exact readNumber_point negative digits nonzero (by simp [Digits]) (by decide) fits ends

theorem readNumber_behindPoint (fraction : d.exponent < 0)
    (small : d.digitText.length ≤ (-d.exponent).toNat) (fits : d.digits ≤ greatestSignificand)
    (ends : EndsNumber rest) :
    readNumber negative (Utf8.encode d.positional ++ rest) =
      finishFloat negative d.digits d.exponent rest := by
  have digits : Digits (List.replicate ((-d.exponent).toNat - d.digitText.length) '0'
      ++ Nat.toDigits 10 d.digits) :=
    digits_append.2 ⟨digits_replicate _, digits_toDigits _⟩
  have text : Utf8.encode d.positional ++ rest = 0x30 :: 0x2E ::
      (ascii (List.replicate ((-d.exponent).toNat - d.digitText.length) '0'
        ++ Nat.toDigits 10 d.digits) ++ rest) := by
    rw [Decimal.positional, if_neg (by omega)]
    dsimp only
    rw [if_pos small, String.append_assoc, Utf8.encode_append, Decimal.zeros]
    generalize (-d.exponent).toNat - d.digitText.length = zeros at digits ⊢
    rw [d.digitText_eq, ← String.ofList_append, encode_digits digits]
    rfl
  have value : Nat.ofDigitChars 10 (List.replicate ((-d.exponent).toNat - d.digitText.length) '0'
      ++ Nat.toDigits 10 d.digits) 0 = d.digits := by
    rw [Nat.ofDigitChars_append, Nat.ofDigitChars_replicate_zero, Nat.mul_zero,
      Nat.ofDigitChars_ten_toDigits]
  have places : (List.replicate ((-d.exponent).toNat - d.digitText.length) '0'
      ++ Nat.toDigits 10 d.digits).length = (-d.exponent).toNat := by
    rw [List.length_append, List.length_replicate, ← Decimal.length_digitText]
    omega
  have exponent : -(((-d.exponent).toNat : Nat) : Int) = d.exponent := by omega
  rw [text, readNumber_zeroPoint negative digits (by simp) (by rwa [value]) ends, value, places,
    exponent]

theorem readNumber_aroundPoint (positive : 0 < d.digits) (fraction : d.exponent < 0)
    (large : (-d.exponent).toNat < d.digitText.length) (fits : d.digits ≤ greatestSignificand)
    (ends : EndsNumber rest) :
    readNumber negative (Utf8.encode d.positional ++ rest) =
      finishFloat negative d.digits d.exponent rest := by
  have digits := digits_toDigits d.digits
  have value : Nat.ofDigitChars 10 (Nat.toDigits 10 d.digits) 0 = d.digits :=
    Nat.ofDigitChars_ten_toDigits
  obtain ⟨c, chars, shown, nonzero⟩ := toDigits_pos positive
  have length : d.digitText.length = chars.length + 1 := by
    rw [Decimal.length_digitText, shown, List.length_cons]
  -- at least one digit stands before the point
  obtain ⟨before, is⟩ : ∃ n, d.digitText.length - (-d.exponent).toNat = n + 1 :=
    ⟨d.digitText.length - (-d.exponent).toNat - 1, by omega⟩
  have text : Utf8.encode d.positional ++ rest =
      ascii (c :: chars.take before) ++ 0x2E :: (ascii (chars.drop before) ++ rest) := by
    have whole : Digits (c :: chars.take before) := by
      rw [shown] at digits
      exact fun x present => digits x (List.mem_of_mem_take (i := before + 1) present)
    have behind : Digits (chars.drop before) := by
      rw [shown] at digits
      exact fun x present => digits x (List.mem_cons_of_mem _ (List.mem_of_mem_drop present))
    rw [Decimal.positional, if_neg (by omega)]
    dsimp only
    rw [if_neg (by omega), is, d.digitText_eq, String.toList_ofList, shown, List.take_succ_cons,
      List.drop_succ_cons, Utf8.encode_append, Utf8.encode_append, encode_digits whole,
      encode_digits behind, List.append_assoc, List.append_assoc]
    rfl
  have joined : c :: chars.take before ++ chars.drop before = Nat.toDigits 10 d.digits := by
    rw [List.cons_append, List.take_append_drop, shown]
  have places : (chars.drop before).length = (-d.exponent).toNat := by
    rw [List.length_drop]
    omega
  have some' : chars.drop before ≠ [] := by
    intro none
    rw [none] at places
    simp only [List.length_nil] at places
    omega
  have exponent : -(((-d.exponent).toNat : Nat) : Int) = d.exponent := by omega
  rw [← joined] at digits value
  rw [digits_append] at digits
  rw [text, readNumber_point negative digits.1 nonzero digits.2 some' (by rwa [value]) ends, value,
    places, exponent]

/-- **A positional decimal is read back**, the zero after the point of a whole number as one more
digit. -/
theorem readNumber_positional (positive : 0 < d.digits)
    (fits : d.reading.digits ≤ greatestSignificand)
    (laidOut : JsonNumber.layout.least ≤ d.leading ∧ d.leading ≤ JsonNumber.layout.greatest)
    (ends : EndsNumber rest) :
    readNumber negative (Utf8.encode d.positional ++ rest) =
      finishFloat negative d.reading.digits d.reading.exponent rest := by
  by_cases whole : 0 ≤ d.exponent
  · have reading : d.reading = ⟨d.digits * 10 ^ (d.exponent.toNat + 1), -1⟩ := by
      rw [Decimal.reading, if_pos ⟨whole, laidOut⟩]
    rw [reading] at fits ⊢
    exact readNumber_whole negative positive whole fits ends
  · have reading : d.reading = d := by rw [Decimal.reading, if_neg fun both => whole both.1]
    rw [reading] at fits ⊢
    rcases Nat.lt_or_ge (-d.exponent).toNat d.digitText.length with large | small
    · exact readNumber_aroundPoint negative positive (by omega) large fits ends
    · exact readNumber_behindPoint negative (by omega) small fits ends

/-- **A decimal with an exponent is read back.** -/
theorem readNumber_scientific (positive : 0 < d.digits) (fits : d.digits ≤ greatestSignificand)
    (moderate : d.leading.natAbs ≤ greatestExponent) (ends : EndsNumber rest) :
    readNumber negative (Utf8.encode d.scientific ++ rest) =
      finishFloat negative d.digits d.exponent rest := by
  have digits := digits_toDigits d.digits
  have value : Nat.ofDigitChars 10 (Nat.toDigits 10 d.digits) 0 = d.digits :=
    Nat.ofDigitChars_ten_toDigits
  obtain ⟨c, chars, shown, nonzero⟩ := toDigits_pos positive
  have exponentText : Utf8.encode ((if d.leading < 0 then "e-" else "e+")
      ++ toString d.leading.natAbs) ++ rest =
      0x65 :: (if d.leading < 0 then 0x2D else 0x2B) ::
        (ascii (Nat.toDigits 10 d.leading.natAbs) ++ rest) := by
    rw [Utf8.encode_append, Nat.toString_eq_ofList_toDigits, encode_digits (digits_toDigits _)]
    split <;> rfl
  have leading : d.leading = d.exponent + chars.length := by
    rw [Decimal.leading, Decimal.length_digitText, shown, List.length_cons]
    omega
  rw [Decimal.scientific]
  rw [String.append_assoc, Utf8.encode_append, List.append_assoc, exponentText, d.digitText_eq,
    String.toList_ofList]
  rw [shown] at digits value ⊢
  cases chars with
  | nil =>
    dsimp only
    rw [encode_digits digits, readNumber_ascii negative digits nonzero (by rwa [value])
        (noDigit_mark _), value, readNumberEnd_mark,
      readExponent_signed negative _ _ moderate ends.noDigit, Int.zero_add, leading]
    simp
  | cons next chars =>
    have first : Digits [c] := by
      simpa using (digits_cons.1 digits).1
    have behind : Digits (next :: chars) := (digits_cons.1 digits).2
    have text : Utf8.encode (String.ofList (c :: '.' :: next :: chars)) =
        ascii [c] ++ 0x2E :: ascii (next :: chars) := by
      have apart : String.ofList (c :: '.' :: next :: chars)
          = String.ofList [c] ++ ("." ++ String.ofList (next :: chars)) := by
        apply String.toList_inj.1
        simp
      rw [apart, Utf8.encode_append, Utf8.encode_append, encode_digits first, encode_digits behind]
      rfl
    have split : Nat.ofDigitChars 10 (next :: chars) (Nat.ofDigitChars 10 [c] 0) = d.digits := by
      rw [← Nat.ofDigitChars_append]
      exact value
    have exponent : 0 - ((next :: chars).length : Int) + d.leading = d.exponent := by omega
    dsimp only
    rw [text, List.append_assoc, List.cons_append,
      readNumber_ascii negative first nonzero
        (Nat.le_trans (le_ofDigitChars _ _) (by rwa [split])) (noDigit_point _),
      readNumberEnd_point,
      readFraction_digits negative behind (by simp) (by rwa [split]) 0 (noDigit_mark _),
      readFractionEnd_mark, split, readExponent_signed negative _ _ moderate ends.noDigit, exponent]

end Decimals

/-! ## Numbers -/

/-- **The text of a double's magnitude is read back.** -/
theorem readNumber_float (negative : Bool) {m : Magnitude} (canonical : m.Canonical) {rest : Bytes}
    (ends : EndsNumber rest) :
    readNumber negative (Utf8.encode ((Binary64.mk false m).text JsonNumber.layout) ++ rest) =
      .ok (.float ⟨negative, m.reread⟩, rest) := by
  have finished : finishFloat negative m.shortest.reading.digits m.shortest.reading.exponent rest =
      .ok (.float ⟨negative, m.reread⟩, rest) := by
    rw [finishFloat, (Magnitude.ofDecimal_reading canonical).1]
  rw [← finished, Binary64.text]
  dsimp only
  rw [Binary64.sign, if_neg Bool.false_ne_true, String.empty_append, Magnitude.isZero]
  by_cases zero : m.mantissa = 0
  · have unwritten : m.shortest = ⟨0, 0⟩ := by
      rw [Magnitude.shortest, Magnitude.isZero, if_pos (by simpa using zero)]
    rw [if_pos (by simpa using zero), unwritten]
    have zeroDigit : Digits ['0'] := by simp [Digits]
    exact readNumber_zeroPoint negative zeroDigit (by decide) (by decide) ends
  · obtain ⟨positive, few, least, greatest, -⟩ := Magnitude.shortest_spec canonical zero
    have bound : 10 ^ 18 ≤ greatestSignificand := by decide
    rw [if_neg (by simpa using zero)]
    by_cases laidOut : JsonNumber.layout.least ≤ m.shortest.leading ∧
        m.shortest.leading ≤ JsonNumber.layout.greatest
    · have fits := Decimal.reading_digits_lt few
      rw [if_pos laidOut, readNumber_positional negative positive
        (Nat.le_of_lt_succ fits) laidOut ends]
    · have reading : m.shortest.reading = m.shortest := by
        rw [Decimal.reading, if_neg fun both => laidOut both.2]
      have short : m.shortest.digitText.length ≤ 19 := by
        rw [Decimal.length_digitText, Nat.length_toDigits_le_iff (by decide) (by decide)]
        exact Nat.lt_of_le_of_lt few (by decide)
      have moderate : m.shortest.leading.natAbs ≤ greatestExponent := by
        rw [Decimal.leading, greatestExponent]
        omega
      rw [if_neg laidOut, reading,
        readNumber_scientific negative positive (Nat.le_trans few bound) moderate ends]

theorem readNumber_nat (negative : Bool) {n : Nat} (fits : n ≤ greatestSignificand) {rest : Bytes}
    (ends : EndsNumber rest) :
    readNumber negative (Utf8.encode (toString n) ++ rest) = .ok (wholeNumber negative n, rest) := by
  rw [Nat.toString_eq_ofList_toDigits, encode_digits (digits_toDigits n),
    readNumber_toDigits negative fits ends.noDigit, readNumberEnd_end negative n ends]

section Values

variable (readArray readObject : Bytes → Except Stop (Json × Bytes))

theorem readWith_minus {input rest : Bytes} {number : JsonNumber}
    (reads : readNumber true input = .ok (number, rest)) :
    readWith readArray readObject (0x2D :: input) = .ok (.number number, rest) := by
  have minus : skipBlanks (0x2D :: input) = 0x2D :: input := rfl
  rw [readWith, minus]
  dsimp only
  rw [if_neg (by decide), if_neg (by decide), if_neg (by decide), if_pos rfl, reads]
  rfl

theorem skipBlanks_of_notBlank {b : UInt8} {rest : Bytes} (notBlank : isBlank b = false) :
    skipBlanks (b :: rest) = b :: rest := by
  rw [skipBlanks, notBlank]
  rfl

theorem digit?_bounds {b : UInt8} {d : Nat} (digit : digit? b = some d) :
    48 ≤ b.toNat ∧ b.toNat ≤ 57 := by
  rw [digit?] at digit
  split at digit
  · rename_i inRange
    simpa [UInt8.le_iff_toNat_le] using inRange
  · simp at digit

theorem digit?_ne {b : UInt8} {d : Nat} (digit : digit? b = some d) (n : UInt8)
    (outside : n.toNat < 48 ∨ 57 < n.toNat) : b ≠ n := by
  obtain ⟨low, high⟩ := digit?_bounds digit
  rintro rfl
  omega

theorem isBlank_digit {b : UInt8} {d : Nat} (digit : digit? b = some d) : isBlank b = false := by
  simp [isBlank, digit?_ne digit 0x20 (by decide), digit?_ne digit 0x0A (by decide),
    digit?_ne digit 0x09 (by decide), digit?_ne digit 0x0D (by decide)]

theorem digit?_of_readNumber {negative : Bool} {input rest : Bytes} {number : JsonNumber}
    (reads : readNumber negative input = .ok (number, rest)) :
    ∃ b d behind, input = b :: behind ∧ digit? b = some d := by
  cases input with
  | nil => simp [readNumber, stopAtEnd] at reads
  | cons b behind =>
    cases digit : digit? b with
    | none => simp [readNumber, digit, stopBefore] at reads
    | some d => exact ⟨b, d, behind, rfl, digit⟩

/-- What is read as a number is read as a value. -/
theorem readWith_plain {input rest : Bytes} {number : JsonNumber}
    (reads : readNumber false input = .ok (number, rest)) :
    readWith readArray readObject input = .ok (.number number, rest) := by
  obtain ⟨b, d, behind, rfl, digit⟩ := digit?_of_readNumber reads
  have other := digit?_ne digit
  rw [readWith, skipBlanks_of_notBlank (isBlank_digit digit)]
  dsimp only
  rw [if_neg (other 0x22 (by decide)), if_neg (other 0x5B (by decide)),
    if_neg (other 0x7B (by decide)), if_neg (other 0x2D (by decide)), digit, Option.isSome_some,
    if_pos rfl, reads]
  rfl

/-- The text of a number: a sign, if any, and what is read back behind it. -/
theorem encode_number {number : JsonNumber} (kept : number.Kept) :
    ∃ (negative : Bool) (body : Bytes),
      Utf8.encode number.text = (if negative then [0x2D] else []) ++ body ∧
      ∀ rest, EndsNumber rest →
        readNumber negative (body ++ rest) = .ok (number.reread, rest) := by
  cases number with
  | integer value =>
    obtain ⟨least, greatest⟩ := kept
    rw [JsonNumber.text, Int.toString_eq_repr, Int.repr_eq_if, JsonNumber.reread]
    by_cases nonneg : 0 ≤ value
    · have fits : value.toNat ≤ greatestSignificand := by
        rw [greatestSignificand]
        omega
      rw [if_pos nonneg]
      refine ⟨false, _, rfl, fun rest ends => ?_⟩
      have read := readNumber_nat false fits ends
      rwa [wholeNumber, if_neg (by decide), Int.toNat_of_nonneg nonneg] at read
    · have fits : (-value).toNat ≤ greatestSignificand := by
        rw [greatestSignificand]
        omega
      rw [if_neg nonneg, Utf8.encode_append]
      refine ⟨true, _, rfl, fun rest ends => ?_⟩
      have read := readNumber_nat true fits ends
      have is : -((-value).toNat : Int) = value := by omega
      rwa [wholeNumber, if_pos rfl, if_neg (by omega), if_pos (by omega), is] at read
  | float value =>
    obtain ⟨negative, m⟩ := value
    cases negative with
    | false => exact ⟨false, _, rfl, fun rest ends => readNumber_float false kept ends⟩
    | true => exact ⟨true, _, rfl, fun rest ends => readNumber_float true kept ends⟩

/-- **The text of a number is read back.** -/
theorem readWith_number {number : JsonNumber} (kept : number.Kept) {rest : Bytes}
    (ends : EndsNumber rest) :
    readWith readArray readObject (Utf8.encode number.text ++ rest) =
      .ok (.number number.reread, rest) := by
  obtain ⟨negative, body, text, reads⟩ := encode_number kept
  rw [text]
  cases negative with
  | false => exact readWith_plain readArray readObject (reads rest ends)
  | true => exact readWith_minus readArray readObject (reads rest ends)

end Values

end Json

end EngineBridge
