import EngineBridge.Text.Unprintable
/-!
# Text in settings, arguments and messages

Blank characters are those of Unicode's property `White_Space`.  Between quotes the quote, the
backslash and four control characters are written with a backslash, other characters that would not
show as their number in braces, and all else as it is.  An unsigned number is decimal digits with a
plus sign in front of them at most; the first character that rules a text out decides the fault.
-/

namespace EngineBridge.Text

-- Powers are core's, also where Mathlib has brought its own.
attribute [local instance (20000)] instPowNat

def isBlank (c : Char) : Bool :=
  let n := c.toNat
  (9 ≤ n && n ≤ 13) || n = 0x20 || n = 0x85 || n = 0xA0 || n = 0x1680 ||
    (0x2000 ≤ n && n ≤ 0x200A) || n = 0x2028 || n = 0x2029 || n = 0x202F || n = 0x205F ||
    n = 0x3000

/-- The characters without those that are blank at either end. -/
def trimChars (chars : List Char) : List Char :=
  ((chars.dropWhile isBlank).reverse.dropWhile isBlank).reverse

def trim (text : String) : String := String.ofList (trimChars text.toList)

def isAllBlank (text : String) : Bool := text.toList.all isBlank

/-! ## Quotes -/

/-- The hexadecimal digits of a number, in lower case and without leading zeros. -/
def hexText (n : Nat) : String := String.ofList (Nat.toDigits 16 n)

/-- How a character is written inside quotes. -/
def quotedChar (c : Char) : String :=
  if c = '"' then "\\\""
  else if c = '\\' then "\\\\"
  else if c.toNat = 0 then "\\0"
  else if c = '\t' then "\\t"
  else if c = '\n' then "\\n"
  else if c = '\r' then "\\r"
  else if Unprintable.contains c then "\\u\x7b" ++ hexText c.toNat ++ "\x7d"
  else String.singleton c

def quoted (text : String) : String :=
  "\"" ++ text.toList.foldl (fun out c => out ++ quotedChar c) "" ++ "\""

/-- Texts in quotes between brackets. -/
def quotedList (texts : List String) : String :=
  "[" ++ ", ".intercalate (texts.map quoted) ++ "]"

/-! ## Names in messages -/

def ticked (name : String) : String := "`" ++ name ++ "`"

/-- Says which names are expected: one alone, two joined by a word, more as a list. -/
def expectedNames (names : List String) : String :=
  match names with
  | [] => "there are no fields"
  | [name] => "expected " ++ ticked name
  | [first, second] => "expected " ++ ticked first ++ " or " ++ ticked second
  | _ => "expected one of " ++ ", ".intercalate (names.map ticked)

/-- Says that a name is none of those there are. -/
def unknownField (name : String) (names : List String) : String :=
  "unknown field " ++ ticked name ++ ", " ++ expectedNames names

/-- Says what a record given by position is: its name and the number of its elements. -/
def recordOfLength (name : String) (length : Nat) : String :=
  "struct " ++ name ++ " with " ++ toString length
    ++ (if length = 1 then " element" else " elements")

/-! ## Unsigned numbers -/

inductive NumberFault where
  | empty
  | badDigit
  | tooGreat
deriving DecidableEq, Repr

def NumberFault.message : NumberFault → String
  | empty => "cannot parse integer from empty string"
  | badDigit => "invalid digit found in string"
  | tooGreat => "number too large to fit in target type"

/-- Adds a digit to a value that must stay below a bound. -/
def addDigit (bound value : Nat) (c : Char) : Except NumberFault Nat :=
  if c < '0' ∨ '9' < c then .error .badDigit
  else
    let value := value * 10 + (c.toNat - '0'.toNat)
    if value < bound then .ok value else .error .tooGreat

/-- The number below a bound that characters make. -/
def unsignedOf (bound : Nat) (chars : List Char) : Except NumberFault Nat :=
  match chars with
  | [] => .error .empty
  | '+' :: digits =>
    if digits.isEmpty then .error .badDigit else digits.foldlM (addDigit bound) 0
  | digits => digits.foldlM (addDigit bound) 0

/-- The number that a text holds, if it fits an unsigned 64-bit word. -/
def readWord (text : String) : Except NumberFault Nat :=
  unsignedOf (2 ^ (64 : Nat)) text.toList

end EngineBridge.Text
