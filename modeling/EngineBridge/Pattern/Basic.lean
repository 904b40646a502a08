/-!
# Patterns as trees

A pattern is a tree of pieces that match one character or none, sets in brackets, repetitions,
groups, sequences and choices.  Every part has its span in the text of the pattern.  A tree
holds what is needed to tell whether a pattern can be used: which set a name stands for, or
how often a part is repeated, is left out.
-/

namespace EngineBridge.Pattern

/-- A place in the text of a pattern: line and column, both counted from one. -/
structure Place where
  line : Nat
  column : Nat
deriving DecidableEq, Repr

namespace Place

def first : Place := ⟨1, 1⟩

def after (place : Place) (c : Char) : Place :=
  if c = '\n' then ⟨place.line + 1, 1⟩ else ⟨place.line, place.column + 1⟩

def isBefore (place other : Place) : Bool :=
  place.line < other.line || (place.line = other.line && place.column < other.column)

end Place

/-- A part of the text of a pattern, from a place up to another one. -/
structure Span where
  start : Place
  stop : Place
deriving DecidableEq, Repr

namespace Span

/-- A span without characters. -/
def empty (place : Place) : Span := ⟨place, place⟩

def isOnOneLine (span : Span) : Bool := span.start.line = span.stop.line

def isBefore (span other : Span) : Bool :=
  span.start.isBefore other.start || (span.start = other.start && span.stop.isBefore other.stop)

end Span

/-- What a flag of a group changes. -/
inductive Flag where
  | ignoreCase
  | multiLine
  | dotMatchesAll
  | swapGreed
  | unicode
  | carriageReturns
  | verbose
deriving DecidableEq, Repr

/-- What stands among the flags of a group: a flag, or the sign that turns off those after
it. -/
inductive FlagItem where
  | negation
  | flag (flag : Flag)
deriving DecidableEq, Repr

/-- What flags say about one of them, if anything; `isOn` is what the next flag is set to. -/
def settingFrom (isOn : Bool) (flag : Flag) : List FlagItem → Option Bool
  | [] => none
  | .negation :: items => settingFrom false flag items
  | .flag other :: items => if other = flag then some isOn else settingFrom isOn flag items

/-- What flags say about one of them, if anything. -/
def setting (flag : Flag) (items : List FlagItem) : Option Bool := settingFrom true flag items

structure Literal where
  span : Span
  value : Char
  /-- Whether it was written as a byte, by two hexadecimal digits. -/
  isByte : Bool
deriving DecidableEq, Repr

/-- A part of a pattern that matches one character or none. -/
inductive Piece where
  | literal (character : Literal)
  /-- Any character. -/
  | dot (span : Span)
  /-- The begin or the end of a line or of the text. -/
  | anchor (span : Span)
  /-- The begin or the end of a word, or neither. -/
  | wordBoundary (span : Span)
  /-- A set with a letter of its own, such as the digits. -/
  | shorthand (span : Span) (isNegated : Bool)
  /-- A set given by a property of characters. -/
  | property (span : Span)
deriving DecidableEq, Repr

def Piece.span : Piece → Span
  | literal character => character.span
  | dot span | anchor span | wordBoundary span | shorthand span _ | property span => span

/-- What stands in brackets. -/
inductive SetTree where
  | nothing (span : Span)
  | literal (character : Literal)
  | range (span : Span) (low high : Literal)
  /-- A set between colons and brackets, such as the letters. -/
  | named (span : Span) (isNegated : Bool)
  | shorthand (span : Span) (isNegated : Bool)
  | property (span : Span)
  | bracketed (span : Span) (isNegated : Bool) (body : SetTree)
  | union (span : Span) (items : List SetTree)
  /-- An intersection or a difference. -/
  | operation (span : Span) (left right : SetTree)

def SetTree.span : SetTree → Span
  | literal character => character.span
  | nothing span | range span _ _ | named span _ | shorthand span _ | property span
  | bracketed span _ _ | union span _ | operation span _ _ => span

inductive Node where
  | empty (span : Span)
  | piece (part : Piece)
  /-- Flags for the rest of the group. -/
  | flags (span : Span) (items : List FlagItem)
  | set (span : Span) (isNegated : Bool) (body : SetTree)
  | repetition (span : Span) (body : Node)
  | group (span : Span) (flags : List FlagItem) (body : Node)
  | sequence (span : Span) (parts : List Node)
  | choice (span : Span) (branches : List Node)

def Node.span : Node → Span
  | piece part => part.span
  | empty span | flags span _ | set span _ _ | repetition span _ | group span _ _
  | sequence span _ | choice span _ => span

end EngineBridge.Pattern
