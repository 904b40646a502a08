import EngineBridge.Binary64.Shortest
import EngineBridge.Json.Basic
/-!
# The text of a JSON value (`serde_json::to_string` and `to_string_pretty`)

`Json.text` is the canonical text: no blanks, members in their kept order, control
characters, quotes and backslashes escaped and nothing else.  `Json.pretty` lays the same
tokens out on lines with two blanks per level.  Both append to a text already written.
-/

namespace EngineBridge

/-- Doubles are positional from `0.00001` up to sixteen digits before the point. -/
def JsonNumber.layout : FloatLayout := ⟨-5, 15⟩

def JsonNumber.text : JsonNumber → String
  | .integer value => toString value
  | .float value => value.text layout

namespace Json

def hexDigit (n : Nat) : Char :=
  if n < 10 then Char.ofNat (48 + n) else Char.ofNat (87 + n)

/-- How a character is written inside quotes. -/
def escaped (c : Char) : List Char :=
  if c = '"' then ['\\', '"']
  else if c = '\\' then ['\\', '\\']
  else if c.toNat = 8 then ['\\', 'b']
  else if c.toNat = 9 then ['\\', 't']
  else if c.toNat = 10 then ['\\', 'n']
  else if c.toNat = 12 then ['\\', 'f']
  else if c.toNat = 13 then ['\\', 'r']
  else if c.toNat < 32 then
    ['\\', 'u', '0', '0', hexDigit (c.toNat / 16), hexDigit (c.toNat % 16)]
  else [c]

def appendQuoted (out : String) (value : String) : String :=
  (value.toList.foldl (fun text c => (escaped c).foldl String.push text) (out.push '"')).push '"'

def quoted (value : String) : String := appendQuoted "" value

mutual

def appendText (out : String) : Json → String
  | .null => out ++ "null"
  | .bool true => out ++ "true"
  | .bool false => out ++ "false"
  | .number value => out ++ value.text
  | .string value => appendQuoted out value
  | .array elements => (appendElements (out.push '[') true elements).push ']'
  | .object members => (appendMembers (out.push '\x7b') true members).push '\x7d'

def appendElements (out : String) (first : Bool) : List Json → String
  | [] => out
  | value :: rest =>
    appendElements (appendText (if first then out else out.push ',') value) false rest

/-- Appends the members of an object, a comma before each but the first. -/
def appendMembers (out : String) (first : Bool) : List (String × Json) → String
  | [] => out
  | (name, value) :: rest =>
    appendMembers
      (appendText ((appendQuoted (if first then out else out.push ',') name).push ':') value)
      false rest

end

def text (value : Json) : String := appendText "" value

def appendLine (out : String) (level : Nat) : String :=
  (List.replicate (2 * level) ' ').foldl String.push (out.push '\n')

mutual

/-- Appends the text laid out on lines, the value standing at a level. -/
def appendPretty (level : Nat) (out : String) : Json → String
  | .null => out ++ "null"
  | .bool true => out ++ "true"
  | .bool false => out ++ "false"
  | .number value => out ++ value.text
  | .string value => appendQuoted out value
  | .array [] => out ++ "[]"
  | .array (value :: rest) =>
    (appendLine
      (appendPrettyElements level
        (appendPretty (level + 1) (appendLine (out.push '[') (level + 1)) value) rest)
      level).push ']'
  | .object [] => (out.push '\x7b').push '\x7d'
  | .object ((name, value) :: rest) =>
    (appendLine
      (appendPrettyMembers level
        (appendPretty (level + 1)
          (appendQuoted (appendLine (out.push '\x7b') (level + 1)) name ++ ": ") value) rest)
      level).push '\x7d'

/-- Appends the further elements of an array at a level, each on its line. -/
def appendPrettyElements (level : Nat) (out : String) : List Json → String
  | [] => out
  | value :: rest =>
    appendPrettyElements level
      (appendPretty (level + 1) (appendLine (out.push ',') (level + 1)) value) rest

/-- Appends the further members of an object at a level, each on its line. -/
def appendPrettyMembers (level : Nat) (out : String) : List (String × Json) → String
  | [] => out
  | (name, value) :: rest =>
    appendPrettyMembers level
      (appendPretty (level + 1)
        (appendQuoted (appendLine (out.push ',') (level + 1)) name ++ ": ") value) rest

end

/-- The text laid out on lines. -/
def pretty (value : Json) : String := appendPretty 0 "" value

end Json

end EngineBridge
