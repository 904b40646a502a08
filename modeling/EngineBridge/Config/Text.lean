import EngineBridge.Config.Settings
import EngineBridge.Json.Text
/-!
# Settings as text: how `ConduitConfig` is written

Settings are written as JSON and as TOML, sections and settings in a fixed order and what is
not set left out.

A TOML string is written between double quotes if nothing in it needs an escape; else
between single ones; else on several lines between three double quotes, or three single
ones; and if all that fails with escapes.
-/

namespace EngineBridge

-- Powers are core's, also where Mathlib has brought its own.
attribute [local instance (20000)] instPowNat

namespace Toml

/-- The greatest number of times in a row that a character occurs; `run` of them stand
directly before the text and `best` is the greatest so far. -/
def longestRun (c : Char) (run best : Nat) : List Char → Nat
  | [] => max run best
  | d :: rest =>
    if d = c then longestRun c (run + 1) best rest else longestRun c 0 (max run best) rest

/-- Whether a character can only be written as an escape: a control character other than
the tab and the line feed. -/
def needsEscape (c : Char) : Bool :=
  c ≠ '\t' && c ≠ '\n' && (c.toNat < 0x20 || c.toNat = 0x7F)

/-- Four hexadecimal digits in upper case. -/
def fourDigits (n : Nat) : String :=
  let digits := (Nat.toDigits 16 n).map Char.toUpper
  String.ofList (List.replicate (4 - digits.length) '0' ++ digits)

/-- Appends characters with escapes; `run` double quotes stand directly before them, and
`allowed` of them may follow each other. -/
def appendEscaped (allowed : Nat) (onLines : Bool) (run : Nat) (out : String) :
    List Char → String
  | [] => out
  | c :: rest =>
    if c = '"' then
      if run < allowed then appendEscaped allowed onLines (run + 1) (out.push c) rest
      else appendEscaped allowed onLines 0 (out ++ "\\\"") rest
    else
      let written :=
        if c = '\x08' then "\\b"
        else if c = '\t' then "\\t"
        else if c = '\n' then (if onLines then "\n" else "\\n")
        else if c = '\x0c' then "\\f"
        else if c = '\r' then "\\r"
        else if c = '\\' then "\\\\"
        else if c.toNat < 0x20 ∨ c.toNat = 0x7F then "\\u" ++ fourDigits c.toNat
        else String.singleton c
      appendEscaped allowed onLines 0 (out ++ written) rest

/-- A string as TOML. -/
def quoted (value : String) : String :=
  let chars := value.toList
  let hasLines := chars.contains '\n'
  let escapes := chars.any needsEscape
  let backslash := chars.contains '\\'
  let doubles := longestRun '"' 0 0 chars
  let singles := longestRun '\'' 0 0 chars
  let lineStart := if hasLines then "\n" else ""
  let basic := appendEscaped 0 false 0 "\"" chars ++ "\""
  let basicOnLines := appendEscaped 2 true 0 ("\"\"\"" ++ lineStart) chars ++ "\"\"\""
  if !escapes && !backslash && doubles = 0 && !hasLines then basic
  else if !escapes && singles = 0 && !hasLines then "'" ++ value ++ "'"
  else if !escapes && !backslash && doubles ≤ 2 then basicOnLines
  else if !escapes && singles ≤ 2 then "'''" ++ lineStart ++ value ++ "'''"
  else if hasLines then basicOnLines
  else basic

def entryLine (name value : String) : String := name ++ " = " ++ value ++ "\n"

def quotedList (values : List String) : String :=
  "[" ++ ", ".intercalate (values.map quoted) ++ "]"

end Toml

namespace Settings

def member {α : Type} (name : String) (toJson : α → Json) (value : Option α) :
    List (String × Json) :=
  (value.map fun value => (name, toJson value)).toList

/-- The list, unless it is empty. -/
def nonempty (values : List String) : Option (List String) :=
  if values.isEmpty then none else some values

def libraryJson (s : LibrarySettings) : Json :=
  .object
    (member "path" .string s.path ++ member "name" .string s.name
      ++ member "search_paths" (fun paths => .array (paths.map .string)) (nonempty s.searchPaths))

def toJson (settings : Settings) : Json :=
  .object
    (member "library" libraryJson settings.library
      ++ member "bridge" (fun s => .object (member "execute_timeout_ms" .ofNat s.timeout))
        settings.bridge
      ++ member "engine" (fun s => .object (member "worker_threads" .ofNat s.workerThreads))
        settings.engine
      ++ member "log" (fun s => .object (member "filter" .string s.filter)) settings.log)

/-- The lines of the settings of a section under its header. -/
def sectionText (name : String) (lines : List String) : String :=
  "[" ++ name ++ "]\n" ++ String.join lines

def line {α : Type} (name : String) (write : α → String) (value : Option α) : List String :=
  (value.map fun value => Toml.entryLine name (write value)).toList

structure NumberTooGreat where
  value : Nat
deriving DecidableEq, Repr

def NumberTooGreat.message (_ : NumberTooGreat) : String :=
  "out-of-range value for u64 type"

/-- The first number that a TOML document cannot hold. -/
def numberTooGreat? (settings : Settings) : Option NumberTooGreat :=
  ((settings.timeout.toList ++ settings.workerThreads.toList).find? fun n => 2 ^ (63 : Nat) ≤ n).map
    NumberTooGreat.mk

/-- The sections as TOML. -/
def sectionTexts (settings : Settings) : List String :=
  (settings.library.map fun s =>
      sectionText "library"
        (line "path" Toml.quoted s.path ++ line "name" Toml.quoted s.name
          ++ line "search_paths" Toml.quotedList (nonempty s.searchPaths))).toList
    ++ (settings.bridge.map fun s =>
      sectionText "bridge" (line "execute_timeout_ms" toString s.timeout)).toList
    ++ (settings.engine.map fun s =>
      sectionText "engine" (line "worker_threads" toString s.workerThreads)).toList
    ++ (settings.log.map fun s =>
      sectionText "log" (line "filter" Toml.quoted s.filter)).toList

/-- All settings as TOML, sections set apart by an empty line. -/
def toTomlText (settings : Settings) : Except NumberTooGreat String :=
  match settings.numberTooGreat? with
  | some error => .error error
  | none => .ok ("\n".intercalate settings.sectionTexts)

end Settings

end EngineBridge
