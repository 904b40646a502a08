import EngineBridge.Pattern.Fault
import EngineBridge.Text.Basic
/-!
# Reading the text of a pattern

A cursor stands in the text of a pattern.  Under the flag `verbose` blanks and comments between
the parts of a pattern are skipped; a comment begins with a number sign and ends with its line.
-/

namespace EngineBridge.Pattern

/-- Where the reader of a pattern stands. -/
structure Cursor where
  rest : List Char
  place : Place
  isVerbose : Bool
deriving DecidableEq, Repr

def skipGap : Bool → Place → List Char → Place × List Char
  | _, place, [] => (place, [])
  | true, place, c :: rest => skipGap (c ≠ '\n') (place.after c) rest
  | false, place, c :: rest =>
    if Text.isBlank c then skipGap false (place.after c) rest
    else if c = '#' then skipGap true (place.after c) rest
    else (place, c :: rest)

/-- The next character that is no blank; of a comment, its sign apart, the characters count. -/
def peekPast : Bool → List Char → Option Char
  | _, [] => none
  | inComment, c :: rest =>
    if Text.isBlank c then peekPast inComment rest
    else if !inComment && c = '#' then peekPast true rest
    else some c

namespace Cursor

def start (text : List Char) : Cursor := ⟨text, .first, false⟩

def isAtEnd (cursor : Cursor) : Bool := cursor.rest.isEmpty

def here (cursor : Cursor) : Span := .empty cursor.place

def headSpan (cursor : Cursor) : Span :=
  match cursor.rest with
  | [] => cursor.here
  | c :: _ => ⟨cursor.place, cursor.place.after c⟩

def next (cursor : Cursor) : Cursor :=
  match cursor.rest with
  | [] => cursor
  | c :: rest => { cursor with rest := rest, place := cursor.place.after c }

/-- Moves behind the blanks and comments that are to be skipped. -/
def skipBlanks (cursor : Cursor) : Cursor :=
  if cursor.isVerbose then
    let (place, rest) := skipGap false cursor.place cursor.rest
    { cursor with rest := rest, place := place }
  else cursor

/-- Moves to the part of the pattern after the next character. -/
def nextPart (cursor : Cursor) : Cursor := cursor.next.skipBlanks

def skip : Nat → Cursor → Cursor
  | 0, cursor => cursor
  | count + 1, cursor => skip count cursor.next

def skipWord? (word : List Char) (cursor : Cursor) : Option Cursor :=
  if word.isPrefixOf cursor.rest then some (cursor.skip word.length) else none

/-- The character after the next one, blanks left out where they are to be skipped. -/
def peekPart (cursor : Cursor) : Option Char :=
  let rest := cursor.rest.drop 1
  if cursor.isVerbose then (peekPast false rest).or rest.head? else rest.head?

/-- Takes parts that are characters of a kind, at most `count`; `taken` holds those before,
reversed. -/
def takeParts (kind : Char → Bool) : Nat → List Char → Cursor → List Char × Cursor
  | 0, taken, cursor => (taken.reverse, cursor)
  | count + 1, taken, cursor =>
    match cursor.rest with
    | [] => (taken.reverse, cursor)
    | c :: _ =>
      if kind c then takeParts kind count (c :: taken) cursor.nextPart
      else (taken.reverse, cursor)

/-- Takes all parts that are characters of a kind. -/
def partsWhile (kind : Char → Bool) (cursor : Cursor) : List Char × Cursor :=
  takeParts kind cursor.rest.length [] cursor

/-- Moves behind white space, whether it is to be skipped or not. -/
def skipSpace (cursor : Cursor) : Cursor :=
  cursor.skip (cursor.rest.takeWhile Text.isBlank).length

end Cursor

end EngineBridge.Pattern
