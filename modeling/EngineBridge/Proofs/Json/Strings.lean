import EngineBridge.Json.Reader
import EngineBridge.Proofs.Json.Text
/-!
# Reading back strings

What `appendQuoted` writes, `readString` reads: each escape is resolved to the character it
was written for, and the bytes between the quotes are those of the string.  So a string is read
back wherever a value may stand: `readValue_quotedBytes`.
-/

namespace EngineBridge.Json

open Utf8 (encode encodeChar)

/-! ## Inside a string -/

/-- Bytes that stand for themselves are taken over. -/
theorem scanString_plain (bytes out rest : List UInt8)
    (plain : ∀ b ∈ bytes, b ≠ 0x22 ∧ b ≠ 0x5C ∧ ¬ b < 0x20) :
    scanString out .plain (bytes ++ rest) = scanString (bytes.reverse ++ out) .plain rest := by
  induction bytes generalizing out with
  | nil => rfl
  | cons b bytes ih =>
    obtain ⟨quote, backslash, control⟩ := plain b List.mem_cons_self
    rw [List.cons_append, scanString]
    rw [if_neg quote, if_neg backslash, if_neg control, ih]
    · simp
    · intro b present
      exact plain b (List.mem_cons_of_mem _ present)

theorem scanString_hex {a b c d : UInt8} {value : Nat} (out rest : List UInt8)
    (digits : hexNumber? [a, b, c, d] = some value) (small : value < 0xD800) :
    scanString out .plain (0x5C :: 0x75 :: a :: b :: c :: d :: rest) =
      scanString (reversedUtf8 value ++ out) .plain rest := by
  have low : isLowSurrogate value = false := by
    simp [isLowSurrogate]
    omega
  have high : isHighSurrogate value = false := by
    simp [isHighSurrogate]
    omega
  have result : hexResult none [d, c, b, a] = .char value := by
    simp [hexResult, digits, low, high]
  simp [scanString, result]

theorem hexNumber?_control (n : Nat) (h : n < 0x20) :
    hexNumber? [0x30, 0x30, UInt8.ofNat (hexDigit (n / 16)).toNat,
      UInt8.ofNat (hexDigit (n % 16)).toNat] = some n := by
  revert n
  decide

theorem encodeChar_hexDigit (n : Nat) (h : n < 16) :
    encodeChar (hexDigit n) = [UInt8.ofNat (hexDigit n).toNat] := by
  apply Utf8.encodeChar_one
  revert n
  decide

/-- The bytes of a character that is written as it is stand for themselves. -/
theorem encodeChar_plain {c : Char} (plain : 0x20 ≤ c.toNat) (quote : c ≠ '"')
    (backslash : c ≠ '\\') : ∀ b ∈ encodeChar c, b ≠ 0x22 ∧ b ≠ 0x5C ∧ ¬ b < 0x20 := by
  intro b present
  have quote : c.toNat ≠ 0x22 := fun same => quote (Char.toNat_inj.1 same)
  have backslash : c.toNat ≠ 0x5C := fun same => backslash (Char.toNat_inj.1 same)
  have place := Utf8.mem_encodeChar present
  refine ⟨?_, ?_, ?_⟩
  · rintro rfl
    simp only [UInt8.reduceToNat] at place
    omega
  · rintro rfl
    simp only [UInt8.reduceToNat] at place
    omega
  · simp only [UInt8.lt_iff_toNat_lt, UInt8.reduceToNat]
    omega

/-- What is written for a character is read as the character. -/
theorem scanString_escaped (c : Char) (out rest : List UInt8) :
    scanString out .plain ((escaped c).flatMap encodeChar ++ rest) =
      scanString ((encodeChar c).reverse ++ out) .plain rest := by
  have same : ∀ n, c.toNat = n → c = Char.ofNat n := by
    rintro n rfl
    exact (Char.ofNat_toNat c).symm
  by_cases quote : c = '"'
  · subst quote
    rfl
  by_cases backslash : c = '\\'
  · subst backslash
    rfl
  by_cases plain : 0x20 ≤ c.toNat
  · rw [escaped_of_plain plain quote backslash, List.flatMap_singleton]
    exact scanString_plain _ _ _ (encodeChar_plain plain quote backslash)
  by_cases backspace : c.toNat = 8
  · rw [same 8 backspace]
    rfl
  by_cases tab : c.toNat = 9
  · rw [same 9 tab]
    rfl
  by_cases line : c.toNat = 10
  · rw [same 10 line]
    rfl
  by_cases page : c.toNat = 12
  · rw [same 12 page]
    rfl
  by_cases back : c.toNat = 13
  · rw [same 13 back]
    rfl
  -- all other control characters are written as four digits
  · have written : escaped c
      = ['\\', 'u', '0', '0', hexDigit (c.toNat / 16), hexDigit (c.toNat % 16)] := by
      unfold escaped
      rw [if_neg quote, if_neg backslash, if_neg backspace, if_neg tab, if_neg line, if_neg page,
        if_neg back, if_pos (by omega)]
    have high := encodeChar_hexDigit (c.toNat / 16) (by omega)
    have low := encodeChar_hexDigit (c.toNat % 16) (by omega)
    have digits := hexNumber?_control c.toNat (by omega)
    have read := scanString_hex out rest digits (by omega)
    rw [reversedUtf8, Char.ofNat_toNat] at read
    rw [written, ← read]
    simp only [List.flatMap_cons, List.flatMap_nil, high, low]
    rfl

theorem scanString_flatMap (chars : List Char) (out rest : List UInt8) :
    scanString out .plain ((chars.flatMap escaped).flatMap encodeChar ++ rest) =
      scanString ((chars.flatMap encodeChar).reverse ++ out) .plain rest := by
  induction chars generalizing out with
  | nil => rfl
  | cons c chars ih =>
    rw [List.flatMap_cons, List.flatMap_append, List.append_assoc, scanString_escaped, ih]
    simp

/-- The bytes of a string in quotes. -/
def quotedBytes (value : String) : List UInt8 := (quotedChars value).flatMap encodeChar

/-- What follows the opening quote of a string. -/
def quotedTail (value : String) : List UInt8 :=
  (value.toList.flatMap escaped).flatMap encodeChar ++ [0x22]

theorem quotedBytes_eq (value : String) : quotedBytes value = 0x22 :: quotedTail value := by
  rw [quotedBytes, quotedChars, List.flatMap_cons, List.flatMap_append]
  rfl

theorem length_le_flatMap {α β : Type} {f : α → List β} (some' : ∀ a, f a ≠ []) (as : List α) :
    as.length ≤ (as.flatMap f).length := by
  induction as with
  | nil => exact Nat.zero_le _
  | cons a as ih =>
    have := List.length_pos_iff.2 (some' a)
    rw [List.flatMap_cons, List.length_append, List.length_cons]
    omega

theorem escaped_ne_nil (c : Char) : escaped c ≠ [] := by
  unfold escaped
  repeat (split; · exact List.cons_ne_nil _ _)
  exact List.cons_ne_nil _ _

/-- A string in quotes has at least a byte for each character, and the quotes. -/
theorem length_le_quotedBytes (value : String) :
    value.toList.length + 2 ≤ (quotedBytes value).length := by
  have characters : ∀ c, encodeChar c ≠ [] := fun c => String.utf8EncodeChar_ne_nil (c := c)
  have escapes := length_le_flatMap escaped_ne_nil value.toList
  have bytes := length_le_flatMap characters (value.toList.flatMap escaped)
  rw [quotedBytes_eq, quotedTail]
  simp only [List.length_cons, List.length_append, List.length_nil]
  omega

/-- A string is read back. -/
theorem readString_quotedTail (value : String) (rest : List UInt8) :
    readString (quotedTail value ++ rest) = .ok (value, rest) := by
  have scanned : scanString [] .plain (quotedTail value ++ rest) = .ok (encode value, rest) := by
    rw [quotedTail, List.append_assoc, scanString_flatMap, Utf8.encode_eq, List.append_nil,
      List.singleton_append, scanString, if_pos rfl, List.reverse_reverse]
  rw [readString, scanned]
  simp only [Utf8.decode_encode]

/-! ## A string as a value -/

theorem skipBlanks_quote (rest : Bytes) : skipBlanks (0x22 :: rest) = 0x22 :: rest := rfl

theorem readWith_quotedBytes (readArray readObject : Bytes → Except Stop (Json × Bytes))
    (value : String) (rest : List UInt8) :
    readWith readArray readObject (quotedBytes value ++ rest) = .ok (.string value, rest) := by
  rw [quotedBytes_eq, List.cons_append, readWith, skipBlanks_quote]
  simp only [readString_quotedTail]
  rfl

theorem readValue_quotedBytes (count levels : Nat) (value : String) (rest : List UInt8) :
    readValue count levels (quotedBytes value ++ rest) = .ok (.string value, rest) := by
  cases levels with
  | zero => exact readWith_quotedBytes _ _ value rest
  | succ levels => exact readWith_quotedBytes _ _ value rest

end EngineBridge.Json
