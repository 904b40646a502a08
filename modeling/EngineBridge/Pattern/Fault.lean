import EngineBridge.Pattern.Basic
/-!
# Why a pattern is refused

A fault is a complaint about a span of the pattern.  `Fault.report` shows the pattern with the
span marked below its line.  Some complaints name an earlier span too, which is marked as well;
a pattern of several lines is shown with line numbers between two rules, and spans that run
over several lines are told in words.
-/

namespace EngineBridge.Pattern

/-- How many groups, sets, repetitions, sequences and choices may stand inside one another. -/
def greatestDepth : Nat := 250

inductive Complaint where
  | setUnclosed
  | setEscape
  | setRangeOrder
  | setRangeEnd
  | countMissing
  | countTooGreat
  | countUnclosed
  | badHexValue
  | badHexDigit
  | escapeEnds
  | unknownEscape
  | danglingNegation
  | flagTwice (first : Span)
  | negationTwice (first : Span)
  | flagsEnd
  | unknownFlag
  | nameTwice (first : Span)
  | nameEmpty
  | badNameCharacter
  | nameUnclosed
  | groupUnclosed
  | groupUnopened
  | tooDeep
  | nothingToRepeat
  | boundaryUnclosed
  | boundaryOrCountEnds
  | badProperty
  | backReference
  | lookAround
  | notUnicode
  | notUtf8
  | unknownProperty
  | unknownShorthand
  | caseUnknown
deriving DecidableEq, Repr

namespace Complaint

def message : Complaint → String
  | setUnclosed => "unclosed character class"
  | setEscape => "invalid escape sequence found in character class"
  | setRangeOrder => "invalid character class range, the start must be <= the end"
  | setRangeEnd => "invalid range boundary, must be a literal"
  | countMissing => "repetition quantifier expects a valid decimal"
  | countTooGreat => "decimal literal invalid"
  | countUnclosed => "unclosed counted repetition"
  | badHexValue => "hexadecimal literal is not a Unicode scalar value"
  | badHexDigit => "invalid hexadecimal digit"
  | escapeEnds => "incomplete escape sequence, reached end of pattern prematurely"
  | unknownEscape => "unrecognized escape sequence"
  | danglingNegation => "dangling flag negation operator"
  | flagTwice _ => "duplicate flag"
  | negationTwice _ => "flag negation operator repeated"
  | flagsEnd => "expected flag but got end of regex"
  | unknownFlag => "unrecognized flag"
  | nameTwice _ => "duplicate capture group name"
  | nameEmpty => "empty capture group name"
  | badNameCharacter => "invalid capture group character"
  | nameUnclosed => "unclosed capture group name"
  | groupUnclosed => "unclosed group"
  | groupUnopened => "unopened group"
  | tooDeep =>
    "exceed the maximum number of nested parentheses/brackets (" ++ toString greatestDepth ++ ")"
  | nothingToRepeat => "repetition operator missing expression"
  | boundaryUnclosed =>
    "special word boundary assertion is either unclosed or contains an invalid character"
  | boundaryOrCountEnds =>
    "found either the beginning of a special word boundary or a bounded repetition on a \\b "
      ++ "with an opening brace, but no closing brace"
  | badProperty => "invalid Unicode character class"
  | backReference => "backreferences are not supported"
  | lookAround => "look-around, including look-ahead and look-behind, is not supported"
  | notUnicode => "Unicode not allowed here"
  | notUtf8 => "pattern can match invalid UTF-8"
  | unknownProperty => "Unicode property not found"
  | unknownShorthand =>
    "Unicode-aware Perl class not found (make sure the unicode-perl feature is enabled)"
  | caseUnknown =>
    "Unicode-aware case insensitivity matching is not available "
      ++ "(make sure the unicode-case feature is enabled)"

def earlier? : Complaint → Option Span
  | flagTwice first | negationTwice first | nameTwice first => some first
  | _ => none

end Complaint

structure Fault where
  complaint : Complaint
  span : Span
deriving DecidableEq, Repr

def refuse {α : Type} (span : Span) (complaint : Complaint) : Except Fault α :=
  .error ⟨complaint, span⟩

namespace Fault

def spans (fault : Fault) : List Span :=
  match fault.complaint.earlier? with
  | none => [fault.span]
  | some first => if first.isBefore fault.span then [first, fault.span] else [fault.span, first]

/-- The lines of a text; what ends a line, a carriage return included, is left out. -/
def linesOf : List Char → List (List Char)
  | [] => []
  | '\r' :: '\n' :: rest => [] :: linesOf rest
  | '\n' :: rest => [] :: linesOf rest
  | c :: rest =>
    match linesOf rest with
    | [] => [[c]]
    | line :: lines => (c :: line) :: lines

/-- How many columns line numbers take: none when there is a single line. -/
def numberWidth (pattern : List Char) : Nat :=
  let count := (linesOf pattern).length + if pattern.getLast? = some '\n' then 1 else 0
  if count ≤ 1 then 0 else (toString count).length

def repeated (count : Nat) (c : Char) : String := String.ofList (List.replicate count c)

/-- What stands before a line of the pattern. -/
def lineHead (width number : Nat) : String :=
  if width = 0 then "    "
  else
    let digits := toString number
    repeated (width - digits.length) ' ' ++ digits ++ ": "

/-- Marks spans of a line, from a column on; a span without characters gets one mark. -/
def marksFrom (column : Nat) : List Span → String
  | [] => ""
  | span :: spans =>
    let start := span.start.column
    let count := max 1 (span.stop.column - start)
    repeated (start - column) ' ' ++ repeated count '^'
      ++ marksFrom (max column start + count) spans

/-- The line of marks below a line of the pattern, if any span lies on it. -/
def markLine (width number : Nat) (spans : List Span) : String :=
  match spans.filter fun span => span.isOnOneLine && span.start.line = number with
  | [] => ""
  | marked => repeated (if width = 0 then 4 else width + 2) ' ' ++ marksFrom 1 marked ++ "\n"

/-- The lines of a pattern with marks below them. -/
def markedLines (width : Nat) (spans : List Span) : Nat → List (List Char) → String
  | _, [] => ""
  | number, line :: lines =>
    lineHead width number ++ String.ofList line ++ "\n" ++ markLine width number spans
      ++ markedLines width spans (number + 1) lines

/-- Tells in words where a span of several lines lies. -/
def inWords (span : Span) : String :=
  "on line " ++ toString span.start.line ++ " (column " ++ toString span.start.column
    ++ ") through line " ++ toString span.stop.line ++ " (column "
    ++ toString (span.stop.column - 1) ++ ")"

def rule : String := repeated 79 '~' ++ "\n"

def wordLines (spans : List Span) : String :=
  match spans.filter fun span => !span.isOnOneLine with
  | [] => ""
  | wide => "\n".intercalate (wide.map inWords) ++ "\n"

/-- The text that shows where and why a pattern is refused. -/
def report (pattern : String) (fault : Fault) : String :=
  let chars := pattern.toList
  let marked := markedLines (numberWidth chars) fault.spans 1 (linesOf chars)
  let shown :=
    if chars.contains '\n' then rule ++ marked ++ rule ++ wordLines fault.spans else marked
  "regex parse error:\n" ++ shown ++ "error: " ++ fault.complaint.message

end Fault

end EngineBridge.Pattern
