/-!
# The gaps of a TOML document

Blanks, line ends and comments.  Every scanner answers what follows the part it read, or
`none` when that part is not there.
-/

namespace EngineBridge.Toml

def isBlank (c : Char) : Bool := c = ' ' || c = '\t'

/-- Whether a character may stand in a comment or, quotes and backslashes apart, in a
string: any but the control characters, the tab excepted. -/
def isPrintable (c : Char) : Bool :=
  c = '\t' || (0x20 ≤ c.toNat && c.toNat ≠ 0x7F)

def skipBlanks : List Char → List Char
  | [] => []
  | c :: rest => if isBlank c then skipBlanks rest else c :: rest

def skipComment : List Char → List Char
  | [] => []
  | c :: rest => if isPrintable c then skipComment rest else c :: rest

def afterNewline : List Char → Option (List Char)
  | '\n' :: rest => some rest
  | '\r' :: '\n' :: rest => some rest
  | _ => none

/-- What follows a line end, which the end of the document is too. -/
def afterLineEnd : List Char → Option (List Char)
  | [] => some []
  | input => afterNewline input

/-- What follows the rest of a line that holds nothing more but blanks and a comment. -/
def endLine (input : List Char) : Option (List Char) :=
  match skipBlanks input with
  | '#' :: rest => afterLineEnd (skipComment rest)
  | rest => afterLineEnd rest

/-- Where a scanner stands between the elements of an array. -/
inductive Gap where
  | blank
  | comment
  | carriageReturn
deriving DecidableEq, Repr

/-- What follows blanks, line ends and comments between the elements of an array. -/
def skipGap : Gap → List Char → Option (List Char)
  | .blank, [] => some []
  | _, [] => none
  | .blank, c :: rest =>
    if isBlank c || c = '\n' then skipGap .blank rest
    else if c = '#' then skipGap .comment rest
    else if c = '\r' then skipGap .carriageReturn rest
    else some (c :: rest)
  | .comment, c :: rest =>
    if c = '\n' then skipGap .blank rest
    else if c = '\r' then skipGap .carriageReturn rest
    else if isPrintable c then skipGap .comment rest
    else none
  | .carriageReturn, c :: rest => if c = '\n' then skipGap .blank rest else none

end EngineBridge.Toml
