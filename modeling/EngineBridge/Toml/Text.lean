import EngineBridge.Toml.Scan
/-!
# TOML strings

Four forms: between single or double quotes, on one line or on several.  Between double
quotes a backslash begins an escape; on several lines it may also end a line, and then all
blanks and line ends up to the next other character are dropped.  A string of several lines
ends at three quotes; up to two more in front of them belong to it.

One automaton reads all four.
-/

namespace EngineBridge.Toml

/-- The form of a string: its quote, and whether it may run over several lines. -/
structure TextForm where
  quote : Char
  onLines : Bool
deriving DecidableEq, Repr

/-- Where inside a string the reader stands. -/
inductive TextState where
  /-- Among plain characters. -/
  | plain
  /-- After a carriage return: a line feed must follow. -/
  | carriageReturn
  /-- After a number of quotes in a string of several lines. -/
  | quotes (count : Nat)
  /-- After a backslash. -/
  | escape
  /-- Among the digits of an escape: how many are missing, and their value so far. -/
  | code (missing value : Nat)
  /-- After a backslash and blanks: the line must end. -/
  | lineEnd
  /-- After a backslash and a line end: blanks are dropped. -/
  | dropping
  /-- While dropping, after a carriage return: a line feed must follow. -/
  | droppingReturn
deriving DecidableEq, Repr

/-- The character that a one-letter escape stands for. -/
def shortEscape? (c : Char) : Option Char :=
  if c = 'b' then some '\x08'
  else if c = 't' then some '\t'
  else if c = 'n' then some '\n'
  else if c = 'f' then some '\x0c'
  else if c = 'r' then some '\r'
  else if c = '"' then some '"'
  else if c = '\\' then some '\\'
  else none

def hexValue? (c : Char) : Option Nat :=
  if '0' ≤ c && c ≤ '9' then some (c.toNat - '0'.toNat)
  else if 'a' ≤ c && c ≤ 'f' then some (c.toNat - 'a'.toNat + 10)
  else if 'A' ≤ c && c ≤ 'F' then some (c.toNat - 'A'.toNat + 10)
  else none

/-- The character of a code point, if it is one. -/
def charOf? (value : Nat) : Option Char :=
  if value.isValidChar then some (Char.ofNat value) else none

/-- What a character does to a string in which it is not part of an escape. -/
inductive TextStep where
  | ends
  | moves (out : String) (state : TextState)
  | refused

/-- The step of a character that stands for itself, a quote or the begin of an escape. -/
def TextForm.step (form : TextForm) (out : String) (c : Char) : TextStep :=
  if c = form.quote then if form.onLines then .moves out (.quotes 1) else .ends
  else if c = '\\' ∧ form.quote = '"' then .moves out .escape
  else if c = '\n' ∧ form.onLines then .moves (out.push '\n') .plain
  else if c = '\r' ∧ form.onLines then .moves out .carriageReturn
  else if isPrintable c then .moves (out.push c) .plain
  else .refused

def TextForm.pushQuotes (form : TextForm) (count : Nat) (out : String) : String :=
  (List.replicate count form.quote).foldl String.push out

def readTextFrom (form : TextForm) (out : String) :
    TextState → List Char → Option (String × List Char)
  | .quotes count, [] => if 3 ≤ count then some (form.pushQuotes (count - 3) out, []) else none
  | _, [] => none
  | .plain, c :: rest =>
    match form.step out c with
    | .ends => some (out, rest)
    | .moves out state => readTextFrom form out state rest
    | .refused => none
  | .carriageReturn, c :: rest =>
    if c = '\n' then readTextFrom form (out.push '\n') .plain rest else none
  | .quotes count, c :: rest =>
    if c = form.quote then
      if count = 4 then some (form.pushQuotes 2 out, rest)
      else readTextFrom form out (.quotes (count + 1)) rest
    else if 3 ≤ count then some (form.pushQuotes (count - 3) out, c :: rest)
    else
      match form.step (form.pushQuotes count out) c with
      | .ends => none
      | .moves out state => readTextFrom form out state rest
      | .refused => none
  | .escape, c :: rest =>
    if c = 'u' then readTextFrom form out (.code 4 0) rest
    else if c = 'U' then readTextFrom form out (.code 8 0) rest
    else
      match shortEscape? c with
      | some c => readTextFrom form (out.push c) .plain rest
      | none =>
        if form.onLines ∧ isBlank c then readTextFrom form out .lineEnd rest
        else if form.onLines ∧ c = '\n' then readTextFrom form out .dropping rest
        else if form.onLines ∧ c = '\r' then readTextFrom form out .droppingReturn rest
        else none
  | .code missing value, c :: rest =>
    match hexValue? c with
    | none => none
    | some digit =>
      if missing ≤ 1 then
        match charOf? (value * 16 + digit) with
        | some c => readTextFrom form (out.push c) .plain rest
        | none => none
      else readTextFrom form out (.code (missing - 1) (value * 16 + digit)) rest
  | .lineEnd, c :: rest =>
    if isBlank c then readTextFrom form out .lineEnd rest
    else if c = '\n' then readTextFrom form out .dropping rest
    else if c = '\r' then readTextFrom form out .droppingReturn rest
    else none
  | .dropping, c :: rest =>
    if isBlank c || c = '\n' then readTextFrom form out .dropping rest
    else if c = '\r' then readTextFrom form out .droppingReturn rest
    else
      match form.step out c with
      | .ends => none
      | .moves out state => readTextFrom form out state rest
      | .refused => none
  | .droppingReturn, c :: rest =>
    if c = '\n' then readTextFrom form out .dropping rest else none

def readLineText (quote : Char) (input : List Char) : Option (String × List Char) :=
  readTextFrom ⟨quote, false⟩ "" .plain input

/-- Reads a string whose first quote has been read.  A line end right after three quotes
does not belong to it. -/
def readText (quote : Char) (input : List Char) : Option (String × List Char) :=
  match input with
  | second :: third :: rest =>
    if second = quote ∧ third = quote then
      readTextFrom ⟨quote, true⟩ "" .plain ((afterNewline rest).getD rest)
    else readLineText quote input
  | _ => readLineText quote input

end EngineBridge.Toml
