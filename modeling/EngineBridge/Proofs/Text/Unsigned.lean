import Mathlib.Algebra.Group.Nat.Defs
import EngineBridge.Proofs.Basic
import EngineBridge.Proofs.Json.Numbers
import EngineBridge.Text.Basic
/-!
# Numbers in settings and arguments

`readWord_ok_iff`: the texts that are read as a number are its digits, with or without a plus sign,
if it fits a word.  The bound is kept after every digit, and as the value only grows it is enough
to look at the last one.
-/

namespace EngineBridge.Text

open Json (Digits digits_nil digits_cons le_ofDigitChars)

/-- A text that writes a number of at most sixty-four bits. -/
def Writes (text : String) (n : Nat) : Prop :=
  ∃ digits, (text.toList = digits ∨ text.toList = '+' :: digits) ∧ digits ≠ [] ∧ Digits digits ∧
    Nat.ofDigitChars 10 digits 0 = n ∧ n < 2 ^ 64

variable {bound value n : Nat} {c : Char} {chars : List Char}

theorem addDigit_ok_iff :
    addDigit bound value c = .ok n ↔
      c.isDigit ∧ 10 * value + (c.toNat - '0'.toNat) = n ∧ n < bound := by
  have digit : ¬ (c < '0' ∨ '9' < c) ↔ c.isDigit := by
    simp [Char.isDigit, not_or, Char.lt_def]
  unfold addDigit
  by_cases is : c < '0' ∨ '9' < c
  · simp [is, ← digit]
  · rw [if_neg is, Nat.mul_comm value]
    simp only [digit.1 is, true_and]
    by_cases below : 10 * value + (c.toNat - '0'.toNat) < bound
    · rw [if_pos below, Except.ok.injEq]
      exact ⟨fun same => ⟨same, same ▸ below⟩, And.left⟩
    · rw [if_neg below]
      refine iff_of_false nofun ?_
      rintro ⟨rfl, fits⟩
      exact below fits

/-- Digits after a value below the bound are read as the number they continue it to. -/
theorem foldlM_addDigit_ok_iff (below : value < bound) :
    chars.foldlM (addDigit bound) value = .ok n ↔
      Digits chars ∧ Nat.ofDigitChars 10 chars value = n ∧ n < bound := by
  induction chars generalizing value with
  | nil =>
    simp only [List.foldlM_nil, pure, Except.pure, Except.ok.injEq, digits_nil, Nat.ofDigitChars,
      List.foldl_nil, true_and]
    exact ⟨fun is => ⟨is, is ▸ below⟩, fun is => is.1⟩
  | cons c chars ih =>
    rw [List.foldlM_cons, bind_ok_iff, Nat.ofDigitChars_cons, digits_cons]
    constructor
    · rintro ⟨next, added, read⟩
      obtain ⟨digit, rfl, below⟩ := addDigit_ok_iff.1 added
      obtain ⟨digits, number, fits⟩ := (ih below).1 read
      exact ⟨⟨digit, digits⟩, number, fits⟩
    · rintro ⟨⟨digit, digits⟩, number, fits⟩
      -- further digits only make a value greater
      have below : 10 * value + (c.toNat - '0'.toNat) < bound :=
        Nat.lt_of_le_of_lt (number ▸ le_ofDigitChars chars _) fits
      exact ⟨_, addDigit_ok_iff.2 ⟨digit, rfl, below⟩, (ih below).2 ⟨digits, number, fits⟩⟩

/-- **The texts that are read as a number.** -/
theorem readWord_ok_iff {text : String} : readWord text = .ok n ↔ Writes text n := by
  have zero : 0 < 2 ^ 64 := by decide
  unfold readWord Writes unsignedOf
  generalize text.toList = chars
  split
  · simp
  · rename_i digits
    have sign : ¬ Digits ('+' :: digits) := by simp
    by_cases nothing : digits = []
    · subst nothing
      simp_all
    · rw [if_neg (by simpa using nothing), foldlM_addDigit_ok_iff zero]
      constructor
      · intro read
        exact ⟨digits, .inr rfl, nothing, read⟩
      · rintro ⟨given, rfl | is, nonempty, read⟩
        · exact absurd read.1 sign
        · obtain rfl := (List.cons.inj is).2
          exact read
  · rename_i empty signed
    rw [foldlM_addDigit_ok_iff zero]
    constructor
    · intro read
      exact ⟨chars, .inl rfl, empty, read⟩
    · rintro ⟨digits, rfl | is, nonempty, read⟩
      · exact read
      · exact absurd is (signed digits)

end EngineBridge.Text
