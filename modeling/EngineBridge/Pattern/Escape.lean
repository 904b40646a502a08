import EngineBridge.Pattern.Cursor
/-!
# Escapes

What a backslash begins: a character given by itself, by a letter or by its number, a set with a
letter of its own, a set given by a property, or a place between characters.

Patterns stand in the braces of a log filter, so a brace that is opened inside of one is never
closed: whatever it begins is cut short.
-/

namespace EngineBridge.Pattern

def hexValue? (c : Char) : Option Nat :=
  if '0' ≤ c && c ≤ '9' then some (c.toNat - 48)
  else if 'A' ≤ c && c ≤ 'F' then some (c.toNat - 55)
  else if 'a' ≤ c && c ≤ 'f' then some (c.toNat - 87)
  else none

def readHexDigits : Nat → Nat → Cursor → Except Fault (Nat × Cursor)
  | 0, value, cursor => .ok (value, cursor)
  | count + 1, value, cursor =>
    match cursor.rest with
    | [] => refuse cursor.here .escapeEnds
    | c :: _ =>
      match hexValue? c with
      | none => refuse cursor.headSpan .badHexDigit
      | some digit => readHexDigits count (16 * value + digit) cursor.nextPart

/-- The fault of a hexadecimal number in braces, the cursor standing at the brace. -/
def hexBraceFault (cursor : Cursor) : Fault :=
  let (_, after) := cursor.nextPart.partsWhile fun c => (hexValue? c).isSome
  if after.isAtEnd then ⟨.escapeEnds, ⟨cursor.place, after.place⟩⟩
  else ⟨.badHexDigit, after.headSpan⟩

/-- Reads a character given by a number of `width` hexadecimal digits; the cursor stands at the
letter that announces it. -/
def readHex (start : Place) (width : Nat) (cursor : Cursor) : Except Fault (Piece × Cursor) :=
  let first := cursor.nextPart
  match first.rest with
  | [] => refuse first.here .escapeEnds
  | '\x7b' :: _ => .error (hexBraceFault first)
  | _ => do
    let (value, after) ← readHexDigits width 0 first
    if value.isValidChar then
      return (.literal ⟨⟨start, after.place⟩, Char.ofNat value, width = 2⟩, after)
    else refuse ⟨first.place, after.place⟩ .badHexValue

/-- Reads a set given by a property; the cursor stands at the letter that announces it. -/
def readProperty (start : Place) (cursor : Cursor) : Except Fault (Piece × Cursor) :=
  let first := cursor.nextPart
  match first.rest with
  | [] => refuse first.here .escapeEnds
  | '\x7b' :: _ => refuse (first.partsWhile fun _ => true).2.here .escapeEnds
  | '\\' :: _ => refuse first.headSpan .badProperty
  | _ => .ok (.property ⟨start, first.nextPart.place⟩, first.nextPart)

def isEscapable (c : Char) : Bool :=
  c.toNat < 0x80 && !c.isAlphanum && c ≠ '<' && c ≠ '>'

def lettered? (c : Char) : Option Char :=
  match c with
  | 'a' => some '\x07'
  | 'f' => some '\x0c'
  | 't' => some '\t'
  | 'n' => some '\n'
  | 'r' => some '\r'
  | 'v' => some '\x0b'
  | _ => none

def isShorthand (c : Char) : Bool := ['d', 's', 'w', 'D', 'S', 'W'].contains c

/-- Refuses the name of a word boundary in braces; the cursor stands behind the letter that
began at `start`.  A brace with no name in it may still begin a count. -/
def checkBoundary (start : Place) (cursor : Cursor) : Except Fault Unit :=
  match cursor.rest with
  | '\x7b' :: _ =>
    let inside := cursor.nextPart
    if inside.isAtEnd then refuse ⟨start, inside.place⟩ .boundaryOrCountEnds
    else
      match inside.partsWhile fun c => c.isAlpha || c = '-' with
      | ([], _) => .ok ()
      | (_, after) => refuse ⟨cursor.place, after.place⟩ .boundaryUnclosed
  | _ => .ok ()

/-- Reads an escape of one character; the cursor stands at this character. -/
def readShortEscape (start : Place) (c : Char) (cursor : Cursor) :
    Except Fault (Piece × Cursor) :=
  let after := cursor.next
  let span : Span := ⟨start, after.place⟩
  if isEscapable c then .ok (.literal ⟨span, c, false⟩, after)
  else if isShorthand c then .ok (.shorthand span c.isUpper, after)
  else
    match lettered? c, c with
    | some value, _ => .ok (.literal ⟨span, value, false⟩, after)
    | none, 'A' | none, 'z' => .ok (.anchor span, after)
    | none, 'B' | none, '<' | none, '>' => .ok (.wordBoundary span, after)
    | none, 'b' => do
      checkBoundary start after
      return (.wordBoundary span, after)
    | none, _ => refuse span .unknownEscape

/-- Reads an escape; the cursor stands at the backslash. -/
def readEscape (cursor : Cursor) : Except Fault (Piece × Cursor) :=
  let start := cursor.place
  let cursor := cursor.next
  match cursor.rest with
  | [] => refuse ⟨start, cursor.place⟩ .escapeEnds
  | c :: _ =>
    if c.isDigit then refuse ⟨start, cursor.next.place⟩ .backReference
    else
      match c with
      | 'x' => readHex start 2 cursor
      | 'u' => readHex start 4 cursor
      | 'U' => readHex start 8 cursor
      | 'p' | 'P' => readProperty start cursor
      | _ => readShortEscape start c cursor

end EngineBridge.Pattern
