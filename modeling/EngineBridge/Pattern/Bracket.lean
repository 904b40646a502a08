import EngineBridge.Pattern.Escape
/-!
# Sets in brackets

A set holds characters, ranges of them, other sets, and operations on what stands before and
behind a doubled sign.  Directly behind the opening bracket, and the caret that negates the
set, hyphens and else one closing bracket stand for themselves.
-/

namespace EngineBridge.Pattern

/-- What was read of a set: the items, the last one first, and their span. -/
structure SetItems where
  span : Span
  items : List SetTree

namespace SetItems

def start (place : Place) : SetItems := ⟨.empty place, []⟩

def push (set : SetItems) (item : SetTree) : SetItems :=
  ⟨⟨if set.items.isEmpty then item.span.start else set.span.start, item.span.stop⟩,
    item :: set.items⟩

def pushChar (set : SetItems) (span : Span) (c : Char) : SetItems :=
  set.push (.literal ⟨span, c, false⟩)

def tree (set : SetItems) : SetTree :=
  match set.items with
  | [] => .nothing set.span
  | [item] => item
  | items => .union set.span items.reverse

end SetItems

/-- What is open around the items of a set. -/
inductive SetFrame where
  /-- A bracket, with the items before it and its span up to its first item. -/
  | bracket (outer : SetItems) (span : Span) (isNegated : Bool)
  /-- An operation whose left side was read. -/
  | operation (left : SetTree)

def unclosedSet (cursor : Cursor) : List SetFrame → Fault
  | [] => ⟨.setUnclosed, cursor.here⟩
  | .bracket _ span _ :: _ => ⟨.setUnclosed, span⟩
  | .operation _ :: frames => unclosedSet cursor frames

/-- Ends the operation whose right side a tree is, if one is open. -/
def endOperation (right : SetTree) : List SetFrame → SetTree × List SetFrame
  | .operation left :: frames =>
    (.operation ⟨left.span.start, right.span.stop⟩ left right, frames)
  | frames => (right, frames)

/-- Reads hyphens that stand for themselves, at most `count`, in a set that began at
`start`. -/
def readHyphens (start : Place) :
    Nat → SetItems → Cursor → Except Fault (SetItems × Cursor)
  | 0, items, cursor => .ok (items, cursor)
  | count + 1, items, cursor =>
    match cursor.rest with
    | '-' :: _ =>
      let after := cursor.nextPart
      if after.isAtEnd then refuse (.empty start) .setUnclosed
      else readHyphens start count (items.pushChar cursor.headSpan '-') after
    | _ => .ok (items, cursor)

def skipCaret (cursor : Cursor) : Bool × Cursor :=
  match cursor.rest with
  | '^' :: _ => (true, cursor.nextPart)
  | _ => (false, cursor)

/-- What an opening bracket begins. -/
structure SetStart where
  span : Span
  isNegated : Bool
  items : SetItems

/-- Reads an opening bracket and the characters that stand for themselves behind it. -/
def readSetStart (cursor : Cursor) : Except Fault (SetStart × Cursor) := do
  let start := cursor.place
  let (isNegated, inside) := skipCaret cursor.nextPart
  if inside.isAtEnd then refuse ⟨start, inside.place⟩ .setUnclosed
  else
    let (items, inside) ← readHyphens start inside.rest.length (.start inside.place) inside
    match items.items, inside.rest with
    | [], ']' :: _ =>
      let after := inside.nextPart
      let span : Span := ⟨start, after.place⟩
      if after.isAtEnd then refuse span .setUnclosed
      else return (⟨span, isNegated, items.pushChar inside.headSpan ']'⟩, after)
    | _, _ => return (⟨⟨start, inside.place⟩, isNegated, items⟩, inside)

def setNames : List String :=
  ["alnum", "alpha", "ascii", "blank", "cntrl", "digit", "graph", "lower", "print", "punct",
    "space", "upper", "word", "xdigit"]

def readNamedSet? (cursor : Cursor) : Option (SetTree × Cursor) := do
  let inside ← cursor.skipWord? ['[', ':']
  let negated := inside.skipWord? ['^']
  let inside := negated.getD inside
  let name := inside.rest.takeWhile (· ≠ ':')
  let after ← (inside.skip name.length).skipWord? [':', ']']
  if setNames.contains (String.ofList name) then
    return (.named ⟨cursor.place, after.place⟩ negated.isSome, after)
  else none

def readSetPiece (cursor : Cursor) : Except Fault (Piece × Cursor) :=
  match cursor.rest with
  | '\\' :: _ => readEscape cursor
  | c :: _ => .ok (.literal ⟨cursor.headSpan, c, false⟩, cursor.next)
  | [] => refuse cursor.here .setUnclosed

def itemOf (piece : Piece) : Except Fault SetTree :=
  match piece with
  | .literal character => .ok (.literal character)
  | .shorthand span isNegated => .ok (.shorthand span isNegated)
  | .property span => .ok (.property span)
  | other => refuse other.span .setEscape

def rangeEnd (piece : Piece) : Except Fault Literal :=
  match piece with
  | .literal character => .ok character
  | other => refuse other.span .setRangeEnd

/-- Reads an item of a set: a piece, or a range from a piece to another one.  A hyphen makes no
range where a closing bracket or another hyphen follows it. -/
def readSetItem (frames : List SetFrame) (cursor : Cursor) :
    Except Fault (SetTree × Cursor) := do
  let (first, cursor) ← readSetPiece cursor
  let cursor := cursor.skipBlanks
  match cursor.rest with
  | [] => .error (unclosedSet cursor frames)
  | '-' :: _ =>
    if cursor.peekPart = some ']' ∨ cursor.peekPart = some '-' then
      return (← itemOf first, cursor)
    else
      let cursor := cursor.nextPart
      if cursor.isAtEnd then .error (unclosedSet cursor frames)
      else
        let (second, cursor) ← readSetPiece cursor
        let low ← rangeEnd first
        let high ← rangeEnd second
        let span : Span := ⟨first.span.start, second.span.stop⟩
        if high.value < low.value then refuse span .setRangeOrder
        else return (.range span low high, cursor)
  | _ => return (← itemOf first, cursor)

/-- Reads on inside a set, whose items so far are given, to the bracket that closes the outermost
one; each step reads at least one of the `count` characters. -/
def readSetFrom : Nat → List SetFrame → SetItems → Cursor → Except Fault (Node × Cursor)
  | 0, frames, _, cursor => .error (unclosedSet cursor frames)
  | count + 1, frames, items, cursor => do
    let cursor := cursor.skipBlanks
    match cursor.rest with
    | [] => .error (unclosedSet cursor frames)
    | '[' :: _ =>
      match if frames.isEmpty then none else readNamedSet? cursor with
      | some (item, cursor) => readSetFrom count frames (items.push item) cursor
      | none =>
        let (inner, cursor) ← readSetStart cursor
        readSetFrom count (.bracket items inner.span inner.isNegated :: frames) inner.items cursor
    | ']' :: _ =>
      let (body, frames) := endOperation items.tree frames
      match frames with
      | .bracket outer span isNegated :: frames =>
        let after := cursor.next
        let span : Span := ⟨span.start, after.place⟩
        if frames.isEmpty then return (.set span isNegated body, after)
        else readSetFrom count frames (outer.push (.bracketed span isNegated body)) after
      | _ => .error (unclosedSet cursor frames)
    | '&' :: '&' :: _ | '-' :: '-' :: _ | '~' :: '~' :: _ =>
      let after := cursor.skip 2
      let (left, frames) := endOperation items.tree frames
      readSetFrom count (.operation left :: frames) (.start after.place) after
    | _ =>
      let (item, cursor) ← readSetItem frames cursor
      readSetFrom count frames (items.push item) cursor

/-- Reads a set; the cursor stands at its bracket. -/
def readSet (cursor : Cursor) : Except Fault (Node × Cursor) :=
  readSetFrom cursor.rest.length [] (.start cursor.place) cursor

end EngineBridge.Pattern
