import EngineBridge.Pattern.Bracket
import EngineBridge.Text.Letter
/-!
# Reading patterns

`Node.read` answers the tree of a pattern or the first fault in its text.  Groups that are open
are kept on a stack, each with the part of the pattern around it that was read before.
-/

namespace EngineBridge.Pattern

-- Powers are core's, also where Mathlib has brought its own.
attribute [local instance (20000)] instPowNat

/-- What was read of a group, or of the whole pattern: the branches that are finished and the
parts of the current one, both with the last one first. -/
structure Level where
  start : Place
  branches : List Node
  branchStart : Place
  parts : List Node

namespace Level

def startAt (place : Place) : Level := ⟨place, [], place, []⟩

def push (level : Level) (part : Node) : Level := { level with parts := part :: level.parts }

def branch (level : Level) (stop : Place) : Node :=
  match level.parts with
  | [] => .empty ⟨level.branchStart, stop⟩
  | [part] => part
  | parts => .sequence ⟨level.branchStart, stop⟩ parts.reverse

def tree (level : Level) (stop : Place) : Node :=
  match level.branches with
  | [] => level.branch stop
  | branches => .choice ⟨level.start, stop⟩ (level.branch stop :: branches).reverse

def split (level : Level) (stop next : Place) : Level :=
  { level with branches := level.branch stop :: level.branches, branchStart := next, parts := [] }

end Level

structure OpenGroup where
  /-- The part of the pattern before it. -/
  outer : Level
  /-- The span of its parenthesis. -/
  span : Span
  flags : List FlagItem
  wasVerbose : Bool

abbrev GroupNames := List (List Char × Span)

def flag? (c : Char) : Option Flag :=
  match c with
  | 'i' => some .ignoreCase
  | 'm' => some .multiLine
  | 's' => some .dotMatchesAll
  | 'U' => some .swapGreed
  | 'u' => some .unicode
  | 'R' => some .carriageReturns
  | 'x' => some .verbose
  | _ => none

def flagItem? (c : Char) : Option FlagItem :=
  if c = '-' then some .negation else (flag? c).map .flag

/-- Says that an item stands twice among flags. -/
def twice (item : FlagItem) (first : Span) : Complaint :=
  match item with
  | .negation => .negationTwice first
  | .flag _ => .flagTwice first

/-- Reads flags up to a colon or a closing parenthesis; `done` holds those before, the last one
first. -/
def readFlags (done : List (FlagItem × Span)) (place : Place) :
    List Char → Except Fault (List FlagItem × Place × List Char)
  | [] => refuse (.empty place) .flagsEnd
  | c :: rest =>
    let span : Span := ⟨place, place.after c⟩
    if c = ':' ∨ c = ')' then
      match done with
      | (.negation, sign) :: _ => refuse sign .danglingNegation
      | _ => .ok ((done.map (·.1)).reverse, place, c :: rest)
    else
      match flagItem? c with
      | none => refuse span .unknownFlag
      | some item =>
        match done.lookup item with
        | some first => refuse span (twice item first)
        | none => readFlags ((item, span) :: done) (place.after c) rest

def isNameChar (isFirst : Bool) (c : Char) : Bool :=
  c = '_' || Letter.contains c ||
    (!isFirst && (c = '.' || c = '[' || c = ']' || Numeral.contains c))

/-- Reads the rest of the name of a group, which began at `start`, and the sign behind it;
`name` holds the characters so far, reversed. -/
def readNameFrom (start : Place) (name : List Char) (place : Place) :
    List Char → Except Fault (List Char × Span × Place × List Char)
  | [] => refuse (.empty place) .nameUnclosed
  | c :: rest =>
    if c = '>' then
      if name.isEmpty then refuse (.empty start) .nameEmpty
      else .ok (name.reverse, ⟨start, place⟩, place.after c, rest)
    else if isNameChar name.isEmpty c then
      readNameFrom start (c :: name) (place.after c) rest
    else refuse ⟨place, place.after c⟩ .badNameCharacter

def readName (names : GroupNames) (cursor : Cursor) : Except Fault (GroupNames × Cursor) := do
  let (name, span, place, rest) ← readNameFrom cursor.place [] cursor.place cursor.rest
  match names.lookup name with
  | some first => refuse span (.nameTwice first)
  | none => return ((name, span) :: names, { cursor with rest := rest, place := place })

inductive GroupStart where
  | group (flags : List FlagItem)
  /-- Flags for the rest of the group around it. -/
  | flags (items : List FlagItem)

/-- The signs behind the opening parenthesis of a look-around. -/
def lookAroundSigns : List (List Char) :=
  [['?', '='], ['?', '!'], ['?', '<', '='], ['?', '<', '!']]

/-- Reads the flags behind a question mark that stands at `mark`, and the sign behind them;
`opening` is the span of the parenthesis. -/
def readFlagGroup (opening : Span) (mark : Place) (cursor : Cursor) :
    Except Fault (GroupStart × Cursor) :=
  if cursor.isAtEnd then refuse opening .groupUnclosed
  else do
    let (items, place, rest) ← readFlags [] cursor.place cursor.rest
    let after := { cursor with rest := rest, place := place }
    match rest with
    | ')' :: _ =>
      if items.isEmpty then refuse (.empty mark) .nothingToRepeat
      else return (.flags items, after.next)
    | _ => return (.group items, after.next)

/-- Reads what an opening parenthesis begins, up to where its content begins; the cursor stands at
the parenthesis. -/
def readGroupStart (names : GroupNames) (cursor : Cursor) :
    Except Fault (GroupStart × GroupNames × Cursor) :=
  let opening := cursor.headSpan
  let inside := cursor.nextPart
  match lookAroundSigns.findSome? (inside.skipWord? ·) with
  | some after => refuse ⟨opening.start, after.place⟩ .lookAround
  | none =>
    match (inside.skipWord? ['?', 'P', '<']).or (inside.skipWord? ['?', '<']) with
    | some after => do
      let (names, after) ← readName names after
      return (.group [], names, after)
    | none =>
      match inside.skipWord? ['?'] with
      | some after => do
        let (start, after) ← readFlagGroup opening inside.place after
        return (start, names, after)
      | none => .ok (.group [], names, inside)

/-- The part that an operator of repetition stands behind, and what is left without it. -/
def repeatable (cursor : Cursor) (level : Level) : Except Fault (Node × Level) :=
  match level.parts with
  | [] | .flags .. :: _ => refuse cursor.here .nothingToRepeat
  | part :: parts => .ok (part, { level with parts := parts })

/-- Repeats the last part; the cursor stands at the operator, behind which a question mark may
stand. -/
def readRepetition (level : Level) (cursor : Cursor) : Except Fault (Level × Cursor) := do
  let (part, level) ← repeatable cursor level
  let after := cursor.next
  let after := (after.skipWord? ['?']).getD after
  return (level.push (.repetition ⟨part.span.start, after.place⟩ part), after)

def countBound : Nat := 2 ^ (32 : Nat)

def decimalValue (digits : List Char) : Nat :=
  digits.foldl (fun value c => 10 * value + (c.toNat - 48)) 0

/-- The fault of a count in braces, the cursor standing at the brace: the count itself may be
wrong, and else the brace is not closed. -/
def countFault (cursor : Cursor) : Fault :=
  let first := cursor.nextPart.skipSpace
  let (digits, last) := first.partsWhile Char.isDigit
  let (_, after) := last.partsWhile Text.isBlank
  let unclosed : Fault := ⟨.countUnclosed, ⟨cursor.place, after.place⟩⟩
  let span : Span := ⟨first.place, last.place⟩
  if after.isAtEnd then unclosed
  else if digits.isEmpty then ⟨.countMissing, span⟩
  else if countBound ≤ decimalValue digits then ⟨.countTooGreat, span⟩
  else unclosed

/-- Reads a count; the cursor stands at its brace. -/
def readCount (level : Level) (cursor : Cursor) : Except Fault (Level × Cursor) := do
  let _ ← repeatable cursor level
  .error (countFault cursor)

def readPiece (cursor : Cursor) : Except Fault (Piece × Cursor) :=
  match cursor.rest with
  | '\\' :: _ => readEscape cursor
  | '.' :: _ => .ok (.dot cursor.headSpan, cursor.next)
  | '^' :: _ | '$' :: _ => .ok (.anchor cursor.headSpan, cursor.next)
  | c :: _ => .ok (.literal ⟨cursor.headSpan, c, false⟩, cursor.next)
  | [] => refuse cursor.here .escapeEnds

/-- How far a pattern was read. -/
structure Progress where
  groups : List OpenGroup
  level : Level
  names : GroupNames
  cursor : Cursor

namespace Progress

def start (text : List Char) : Progress := ⟨[], .startAt .first, [], .start text⟩

/-- Opens a group, or takes the flags that stand in its place. -/
def openGroup (state : Progress) : Except Fault Progress := do
  let opening := state.cursor.headSpan
  let (start, names, cursor) ← readGroupStart state.names state.cursor
  match start with
  | .flags items =>
    let isVerbose := (setting .verbose items).getD cursor.isVerbose
    let part := Node.flags ⟨opening.start, cursor.place⟩ items
    return ⟨state.groups, state.level.push part, names, { cursor with isVerbose := isVerbose }⟩
  | .group items =>
    let isVerbose := (setting .verbose items).getD cursor.isVerbose
    let group : OpenGroup := ⟨state.level, opening, items, cursor.isVerbose⟩
    return ⟨group :: state.groups, .startAt cursor.place, names,
      { cursor with isVerbose := isVerbose }⟩

def closeGroup (state : Progress) : Except Fault Progress :=
  match state.groups with
  | [] => refuse state.cursor.headSpan .groupUnopened
  | group :: groups =>
    let after := { state.cursor.next with isVerbose := group.wasVerbose }
    let body := state.level.tree state.cursor.place
    let part := Node.group ⟨group.span.start, after.place⟩ group.flags body
    .ok ⟨groups, group.outer.push part, state.names, after⟩

/-- Takes what comes next. -/
def step (state : Progress) : Except Fault Progress :=
  let cursor := state.cursor
  let withLevel (result : Except Fault (Level × Cursor)) : Except Fault Progress := do
    let (level, cursor) ← result
    return { state with level := level, cursor := cursor }
  match cursor.rest with
  | '(' :: _ => state.openGroup
  | ')' :: _ => state.closeGroup
  | '|' :: _ => withLevel (.ok (state.level.split cursor.place cursor.next.place, cursor.next))
  | '[' :: _ => withLevel ((readSet cursor).map fun (set, after) => (state.level.push set, after))
  | '?' :: _ | '*' :: _ | '+' :: _ => withLevel (readRepetition state.level cursor)
  | '\x7b' :: _ => withLevel (readCount state.level cursor)
  | _ =>
    withLevel ((readPiece cursor).map fun (part, after) => (state.level.push (.piece part), after))

def finish (state : Progress) : Except Fault Node :=
  match state.groups with
  | [] => .ok (state.level.tree state.cursor.place)
  | group :: _ => refuse group.span .groupUnclosed

/-- Reads on to the end; each step takes at least one of the `count` characters. -/
def run : Nat → Progress → Except Fault Node
  | 0, state => state.finish
  | count + 1, state => do
    let state := { state with cursor := state.cursor.skipBlanks }
    if state.cursor.isAtEnd then state.finish else run count (← state.step)

end Progress

def Node.read (text : List Char) : Except Fault Node := Progress.run text.length (.start text)

end EngineBridge.Pattern
