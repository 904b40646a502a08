import EngineBridge.Pattern.Reader
/-!
# Which patterns of an `EnvFilter` can be used

A pattern that can be read may still be refused: for being nested too deeply, for what its
parts mean under the flags in force, and, if nothing else is wrong, for a word boundary in the
sense of Unicode.

Texts are UTF-8, so that a pattern must not match a part of a character, and the properties of
characters are not known: neither the sets that they give nor, beyond ASCII, the cases of
letters.
-/

namespace EngineBridge.Pattern

/-! ## Depth -/

/-- One level further down, at a span. -/
def deeper (depth : Nat) (span : Span) : Except Fault Nat :=
  if greatestDepth ≤ depth then refuse span .tooDeep else .ok (depth + 1)

mutual

def SetTree.checkDepth (depth : Nat) : SetTree → Except Fault Unit
  | .bracketed span _ body => do body.checkDepth (← deeper depth span)
  | .union span items => do SetTree.checkDepths (← deeper depth span) items
  | .operation span left right => do
    let depth ← deeper depth span
    left.checkDepth depth
    right.checkDepth depth
  | _ => .ok ()

def SetTree.checkDepths (depth : Nat) : List SetTree → Except Fault Unit
  | [] => .ok ()
  | item :: items => do
    item.checkDepth depth
    SetTree.checkDepths depth items

end

mutual

def Node.checkDepth (depth : Nat) : Node → Except Fault Unit
  | .set span _ body => do body.checkDepth (← deeper depth span)
  | .repetition span body | .group span _ body => do body.checkDepth (← deeper depth span)
  | .sequence span parts | .choice span parts => do Node.checkDepths (← deeper depth span) parts
  | _ => .ok ()

def Node.checkDepths (depth : Nat) : List Node → Except Fault Unit
  | [] => .ok ()
  | part :: parts => do
    part.checkDepth depth
    Node.checkDepths depth parts

end

/-! ## Meaning -/

/-- The flags on which it hangs what a part means. -/
structure Mode where
  ignoresCase : Bool
  isUnicode : Bool
deriving DecidableEq, Repr

namespace Mode

def initial : Mode := ⟨false, true⟩

def apply (mode : Mode) (items : List FlagItem) : Mode :=
  ⟨(setting .ignoreCase items).getD mode.ignoresCase,
    (setting .unicode items).getD mode.isUnicode⟩

/-- Whether a character means all those that differ from it in case only. -/
def isFolding (mode : Mode) : Bool := mode.ignoresCase && mode.isUnicode

end Mode

/-- Checks a literal: outside of Unicode a byte must be a character by itself. -/
def Literal.check (mode : Mode) (character : Literal) : Except Fault Unit :=
  if !mode.isUnicode && character.isByte && 0x7F < character.value.toNat then
    refuse character.span .notUtf8
  else .ok ()

/-- Checks a literal in brackets: outside of Unicode it must be ASCII. -/
def Literal.checkInSet (mode : Mode) (character : Literal) : Except Fault Unit := do
  character.check mode
  if !mode.isUnicode && 0x7F < character.value.toNat then refuse character.span .notUnicode
  else .ok ()

/-- Checks a set with a letter of its own. -/
def checkShorthand (mode : Mode) (span : Span) (isNegated : Bool) : Except Fault Unit :=
  if mode.isUnicode then refuse span .unknownShorthand
  else if isNegated then refuse span .notUtf8
  else .ok ()

def checkProperty (mode : Mode) (span : Span) : Except Fault Unit :=
  refuse span (if mode.isUnicode then .unknownProperty else .notUnicode)

/-- Checks a set, once its items are known: `hasChars` tells whether some were given as
characters.  Outside of Unicode a negated set would hold bytes that are no characters. -/
def checkWhole (mode : Mode) (span : Span) (isNegated hasChars : Bool) : Except Fault Unit :=
  if mode.isFolding && hasChars then refuse span .caseUnknown
  else if !mode.isUnicode && isNegated then refuse span .notUtf8
  else .ok ()

mutual

/-- Checks what stands in brackets, and tells whether it gives characters whose cases still
matter. -/
def SetTree.check (mode : Mode) : SetTree → Except Fault Bool
  | .nothing _ => .ok false
  | .literal character => do
    character.checkInSet mode
    return true
  | .range _ low high => do
    low.checkInSet mode
    high.checkInSet mode
    return true
  | .named span isNegated => do
    checkWhole mode span isNegated true
    return true
  | .shorthand span isNegated => do
    checkShorthand mode span isNegated
    return true
  | .property span => do
    checkProperty mode span
    return true
  | .bracketed span isNegated body => do
    let hasChars ← body.check mode
    checkWhole mode span isNegated hasChars
    return hasChars
  | .union _ items => SetTree.checkAll mode items
  | .operation _ left right => do
    let leftHasChars ← left.check mode
    let rightHasChars ← right.check mode
    if mode.isFolding && rightHasChars then refuse right.span .caseUnknown
    else if mode.isFolding && leftHasChars then refuse left.span .caseUnknown
    else return leftHasChars || rightHasChars

def SetTree.checkAll (mode : Mode) : List SetTree → Except Fault Bool
  | [] => .ok false
  | item :: items => do
    let here ← item.check mode
    let later ← SetTree.checkAll mode items
    return here || later

end

/-- Checks a piece, and tells whether it is a word boundary in the sense of Unicode. -/
def Piece.check (mode : Mode) : Piece → Except Fault Bool
  | .literal character => do
    character.check mode
    if mode.isFolding then refuse character.span .caseUnknown else return false
  | .dot span => if mode.isUnicode then .ok false else refuse span .notUtf8
  | .anchor _ => .ok false
  | .wordBoundary _ => .ok mode.isUnicode
  | .shorthand span isNegated => do
    checkShorthand mode span isNegated
    return false
  | .property span => do
    checkProperty mode span
    return false

mutual

/-- Checks a pattern under flags.  Answers the flags in force behind it, and whether it holds a word
boundary in the sense of Unicode. -/
def Node.check (mode : Mode) : Node → Except Fault (Mode × Bool)
  | .empty _ => .ok (mode, false)
  | .piece part => do return (mode, ← part.check mode)
  | .flags _ items => .ok (mode.apply items, false)
  | .set span isNegated body => do
    checkWhole mode span isNegated (← body.check mode)
    return (mode, false)
  | .repetition _ body => body.check mode
  | .group _ items body => do return (mode, (← body.check (mode.apply items)).2)
  | .sequence _ parts | .choice _ parts => Node.checkAll mode parts

def Node.checkAll (mode : Mode) : List Node → Except Fault (Mode × Bool)
  | [] => .ok (mode, false)
  | part :: parts => do
    let (mode, here) ← part.check mode
    let (mode, later) ← Node.checkAll mode parts
    return (mode, here || later)

end

inductive Refusal where
  /-- The pattern is wrong; the text shows where and why. -/
  | faulty (report : String)
  | wordBoundary
deriving DecidableEq, Repr

namespace Refusal

def chain : Refusal → List String
  | faulty report => ["error building NFA", "error parsing regex", report]
  | wordBoundary =>
    ["unsupported regex feature for DFAs: cannot build DFAs for regexes with Unicode word "
      ++ "boundaries; switch to ASCII word boundaries, or heuristically enable Unicode word "
      ++ "boundaries or use a different regex engine"]

end Refusal

/-- Reads a pattern and checks it; tells whether it holds a word boundary in the sense of
Unicode. -/
def examine (text : List Char) : Except Fault Bool := do
  let pattern ← Node.read text
  pattern.checkDepth 0
  return (← pattern.check .initial).2

def check (pattern : String) : Except Refusal Unit :=
  match examine pattern.toList with
  | .error fault => .error (.faulty (fault.report pattern))
  | .ok true => .error .wordBoundary
  | .ok false => .ok ()

end EngineBridge.Pattern
