import EngineBridge.Toml.Moment
import EngineBridge.Toml.Outline
import EngineBridge.Toml.Text
/-!
# Reading TOML (`toml::from_str`)

`Toml.read` answers the table that a text holds, or the line of the first statement that
cannot be read.  At most `greatestDepth` arrays and inline tables may be nested, and at most
as many names may stand in one path.

Recursion is on the number of levels that may still be opened, and along arrays, tables,
paths and the document on a count that starts at the number of characters: each element
takes at least one, so the count is never what ends a loop.
-/

namespace EngineBridge.Toml

/-- How many arrays and inline tables may stand inside one another. -/
def greatestDepth : Nat := 79

def isNameChar (c : Char) : Bool :=
  ('a' ≤ c && c ≤ 'z') || ('A' ≤ c && c ≤ 'Z') || ('0' ≤ c && c ≤ '9') || c = '_' || c = '-'

def readName (input : List Char) : Option (String × List Char) :=
  match input with
  | '"' :: rest => readLineText '"' rest
  | '\'' :: rest => readLineText '\'' rest
  | _ =>
    match input.takeWhile isNameChar with
    | [] => none
    | name => some (String.ofList name, input.dropWhile isNameChar)

def readNames : Nat → List Char → Option (List String × List Char)
  | 0, _ => none
  | count + 1, input => do
    let (name, rest) ← readName (skipBlanks input)
    match skipBlanks rest with
    | '.' :: rest =>
      let (names, rest) ← readNames count rest
      return (name :: names, rest)
    | rest => return ([name], rest)

def splitLast : List String → Option (List String × String)
  | [] => none
  | [name] => some ([], name)
  | step :: rest => do
    let (path, name) ← splitLast rest
    return (step :: path, name)

/-- Reads a path of names: those on the way, and the last one. -/
def readPath (count : Nat) (input : List Char) : Option ((List String × String) × List Char) := do
  let (names, rest) ← readNames count input
  if greatestDepth < names.length then none
  else return (← splitLast names, rest)

def readEntry (readValue : List Char → Option (Toml × List Char)) (count : Nat)
    (input : List Char) : Option ((List String × String × Toml) × List Char) := do
  let ((path, name), rest) ← readPath count input
  let (value, rest) ← readValue (skipBlanks (← afterChar '=' rest))
  return ((path, name, value), rest)

/-- Reads the elements of an array from the next one on, to the closing bracket. -/
def readElements (readValue : List Char → Option (Toml × List Char)) :
    Nat → List Toml → List Char → Option (List Toml × List Char)
  | 0, _, _ => none
  | count + 1, done, input => do
    match ← skipGap .blank input with
    | ']' :: rest => return (done.reverse, rest)
    | input =>
      let (value, rest) ← readValue input
      match ← skipGap .blank rest with
      | ',' :: rest => readElements readValue count (value :: done) rest
      | ']' :: rest => return ((value :: done).reverse, rest)
      | _ => none

/-- Reads the entries of an inline table from the next one on, to the closing brace. -/
def readInlineEntries (readValue : List Char → Option (Toml × List Char)) (width : Nat) :
    Nat → List (List String × String × Toml) → List Char →
      Option (List (List String × String × Toml) × List Char)
  | 0, _, _ => none
  | count + 1, done, input => do
    let (entry, rest) ← readEntry readValue width input
    match skipBlanks rest with
    | ',' :: rest => readInlineEntries readValue width count (entry :: done) rest
    | '\x7d' :: rest => return ((entry :: done).reverse, rest)
    | _ => none

/-- Reads what follows the opening brace of an inline table. -/
def readInlineTable (readValue : List Char → Option (Toml × List Char)) (count : Nat)
    (input : List Char) : Option (Toml × List Char) :=
  match skipBlanks input with
  | '\x7d' :: rest => some (.table [], rest)
  | _ => do
    let (entries, rest) ← readInlineEntries readValue count count [] input
    return (← Outline.ofEntries entries, rest)

/-- Reads a value, with readers for what follows the opening bracket of an array or brace of
an inline table. -/
def readWith (readArray readTable : List Char → Option (Toml × List Char))
    (input : List Char) : Option (Toml × List Char) :=
  match input with
  | '"' :: rest => (readText '"' rest).map fun (chars, rest) => (.text chars, rest)
  | '\'' :: rest => (readText '\'' rest).map fun (chars, rest) => (.text chars, rest)
  | '[' :: rest => readArray rest
  | '\x7b' :: rest => readTable rest
  | 't' :: rest => (afterWord ['r', 'u', 'e'] rest).map fun rest => (.bool true, rest)
  | 'f' :: rest => (afterWord ['a', 'l', 's', 'e'] rest).map fun rest => (.bool false, rest)
  | _ => readNumberOrMoment input

/-- Reads a value in which `levels` arrays and inline tables may be opened inside one
another. -/
def readValue (count : Nat) : (levels : Nat) → List Char → Option (Toml × List Char)
  | 0 => readWith (fun _ => none) (fun _ => none)
  | levels + 1 =>
    readWith
      (fun rest =>
        (readElements (readValue count levels) count [] rest).map fun (elements, rest) =>
          (.array elements, rest))
      (readInlineTable (readValue count levels) count)

def readHeader (count : Nat) (input : List Char) : Option (Statement × List Char) :=
  match input with
  | '[' :: rest => do
    let ((path, name), rest) ← readPath count rest
    let rest ← endLine (← afterChar ']' (← afterChar ']' rest))
    return (.element path name, rest)
  | _ => do
    let ((path, name), rest) ← readPath count input
    return (.table path name, ← endLine (← afterChar ']' rest))

def readStatement (count : Nat) (input : List Char) : Option (Statement × List Char) :=
  match input with
  | '[' :: rest => readHeader count rest
  | _ => do
    let ((path, name, value), rest) ← readEntry (readValue count greatestDepth) count input
    return (.entry path name value, ← endLine rest)

/-- The number of the line that begins where `left` characters of a text are left. -/
def lineAt (text : List Char) (left : Nat) : Nat :=
  (text.take (text.length - left)).count '\n' + 1

/-- Adds the statements of a text to a document, up to the end; or answers how many
characters are left at the first statement that cannot be added. -/
def readInto (size : Nat) : Nat → Outline.Draft → List Char → Except Nat Outline.Draft
  | 0, _, input => .error input.length
  | count + 1, draft, input =>
    match skipBlanks input with
    | [] => .ok draft
    | c :: rest =>
      if c = '#' ∨ c = '\n' ∨ c = '\r' then
        match endLine (c :: rest) with
        | some rest => readInto size count draft rest
        | none => .error (c :: rest).length
      else
        match readStatement size (c :: rest) with
        | none => .error (c :: rest).length
        | some (statement, rest) =>
          match draft.add statement with
          | none => .error (c :: rest).length
          | some draft => readInto size count draft rest

/-- The characters of a text without the mark that may stand at its begin. -/
def withoutMark (text : List Char) : List Char :=
  match text with
  | '\uFEFF' :: rest => rest
  | _ => text

/-- The table that a text holds, or the line of the first statement that cannot be read. -/
def read (text : String) : Except Nat Toml :=
  let chars := withoutMark text.toList
  let size := chars.length + 1
  match readInto size size ⟨[], []⟩ chars with
  | .ok draft => .ok (.table (Outline.entriesToToml draft.entries))
  | .error left => .error (lineAt chars left)

end EngineBridge.Toml
