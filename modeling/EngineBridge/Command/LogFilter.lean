import EngineBridge.Pattern.Check
import EngineBridge.Text.Basic
/-!
# Log filters: `EnvFilter::try_new`

A filter is a list of directives between commas.  A directive is a level, or a target with a
level after an equals sign, or a span between brackets with both around it.  A span may have
fields in braces, and a field a value after an equals sign: a word of truth, a number, or a
pattern.  Here a filter is only checked: what it selects is up to the log.

Blanks around a directive are skipped, but its parts are cut out by how many bytes stand before
them without the blanks.  So after leading blanks each part is cut too early by as many bytes
as there are blanks; a cut inside of a character is a fault.
-/

namespace EngineBridge

inductive FilterFault where
  | badDirective
  | badLevel
  | badPattern (refusal : Pattern.Refusal)
  /-- A part would begin or end inside of a character. -/
  | tornCharacter
deriving DecidableEq, Repr

namespace FilterFault

def message : FilterFault → String
  | badDirective => "invalid filter directive"
  | badLevel =>
    "error parsing level filter: expected one of \"off\", \"error\", \"warn\", \"info\", "
      ++ "\"debug\", \"trace\", or a number 0-5"
  | badPattern refusal => "invalid field filter: " ++ refusal.chain.headD ""
  | tornCharacter => "byte index is not a char boundary"

def causes : FilterFault → List String
  | badLevel => [badLevel.message]
  | badPattern refusal => refusal.chain
  | badDirective | tornCharacter => []

def chain (fault : FilterFault) : List String := fault.message :: fault.causes

end FilterFault

namespace LogFilter

/-! ## Parts of a directive -/

def levelNames : List String := ["off", "error", "warn", "info", "debug", "trace"]

/-- Whether a text is a level: a number up to five, or a name in any case of letters. -/
def isLevel (text : String) : Bool :=
  match Text.readWord text with
  | .ok n => n ≤ 5
  | .error _ => levelNames.contains (String.ofList (text.toList.map Char.toLower))

/-- Whether a character may begin the name of a target. -/
def beginsName (c : Char) : Bool :=
  c = '-' || c = ':' || c = '_' || Letter.contains c || Numeral.contains c

/-- Characters without the sign that they may begin with. -/
def withoutSign (chars : List Char) : List Char :=
  match chars with
  | '+' :: rest | '-' :: rest => rest
  | _ => chars

def areDigits (chars : List Char) : Bool := !chars.isEmpty && chars.all Char.isDigit

/-- Whether characters are an exponent, or nothing. -/
def isExponent (chars : List Char) : Bool :=
  match chars with
  | [] => true
  | 'e' :: rest | 'E' :: rest => areDigits (withoutSign rest)
  | _ => false

/-- Whether characters are a decimal number: digits with a point at most, and an exponent. -/
def isDecimal (chars : List Char) : Bool :=
  let whole := chars.takeWhile Char.isDigit
  match chars.dropWhile Char.isDigit with
  | '.' :: rest =>
    let fraction := rest.takeWhile Char.isDigit
    !(whole.isEmpty && fraction.isEmpty) && isExponent (rest.dropWhile Char.isDigit)
  | rest => !whole.isEmpty && isExponent rest

/-- The words that numbers are written as, in any case of letters. -/
def numberWords : List String := ["inf", "infinity", "nan"]

/-- Whether a value is no pattern: a word of truth or a number. -/
def isPlainValue (value : List Char) : Bool :=
  let body := withoutSign value
  ["true", "false"].contains (String.ofList value) || isDecimal body ||
    numberWords.contains (String.ofList (body.map Char.toLower))

/-- Checks a field: the value behind its first equals sign, up to another one. -/
def checkField (field : List Char) : Except FilterFault Unit :=
  if field.isEmpty then .error .badDirective
  else
    match field.dropWhile (· ≠ '=') with
    | [] => .ok ()
    | _ :: rest =>
      let value := rest.takeWhile (· ≠ '=')
      if isPlainValue value then .ok ()
      else (Pattern.check (String.ofList value)).mapError .badPattern

/-! ## Cutting -/

/-- Splits characters behind a number of bytes, if no character lies across it. -/
def splitAt? : Nat → List Char → Option (List Char × List Char)
  | 0, chars => some ([], chars)
  | _ + 1, [] => none
  | count + 1, c :: rest =>
    if c.utf8Size ≤ count + 1 then
      (splitAt? (count + 1 - c.utf8Size) rest).map fun (before, after) => (c :: before, after)
    else none

/-- The characters behind a number of bytes. -/
def cutFrom (text : List Char) (start : Nat) : Except FilterFault (List Char) :=
  match splitAt? start text with
  | some (_, rest) => .ok rest
  | none => .error .tornCharacter

/-- The characters from a number of bytes up to another one. -/
def cut (text : List Char) (start stop : Nat) : Except FilterFault (List Char) := do
  match splitAt? (stop - start) (← cutFrom text start) with
  | some (part, _) => return part
  | none => .error .tornCharacter

/-! ## Directives -/

/-- Where in a directive the reader stands; a part that is being read has the number of bytes
before it. -/
inductive DirectiveState where
  | start
  | name
  /-- Inside the brackets of a span. -/
  | span (start : Nat)
  /-- Among the fields of a span. -/
  | fields (start : Nat)
  | fieldsEnd
  | spanEnd
  | level (start : Nat)
deriving DecidableEq, Repr

/-- The state behind a character that has `count` bytes before it, in a directive that `text`
holds with what is around it. -/
def step (text : List Char) (count : Nat) (c : Char) :
    DirectiveState → Except FilterFault DirectiveState
  | .start =>
    if c = '[' then .ok (.span (count + 1))
    else if beginsName c then .ok .name
    else .error .badDirective
  | .name => do
    if c = '=' then
      let _ ← cut text 0 count
      return .level (count + 1)
    else if c = '[' then
      let _ ← cut text 0 count
      return .span (count + 1)
    else return .name
  | .span start => do
    if c = ']' then
      let _ ← cut text start count
      return .spanEnd
    else if c = '\x7b' then
      let _ ← cut text start count
      return .fields (count + 1)
    else return .span start
  | .fields start => do
    if c = '\x7d' then
      checkField (← cut text start count)
      return .fieldsEnd
    else return .fields start
  | .fieldsEnd => if c = ']' then .ok .spanEnd else .error .badDirective
  | .spanEnd => if c = '=' then .ok (.level (count + 1)) else .error .badDirective
  | .level start => .ok (.level start)

/-- Checks a directive that ends in a state. -/
def finish (text : List Char) : DirectiveState → Except FilterFault Unit
  | .name | .spanEnd => .ok ()
  | .level start => do
    let level ← cutFrom text start
    if level.isEmpty || isLevel (String.ofList level) then return () else .error .badLevel
  | _ => .error .badDirective

/-- Reads a directive on from a state. -/
def checkFrom (text : List Char) (count : Nat) (state : DirectiveState) :
    List Char → Except FilterFault Unit
  | [] => finish text state
  | c :: rest => do checkFrom text (count + c.utf8Size) (← step text count c state) rest

/-- The parts of a text between commas. -/
def directivesOf : List Char → List (List Char)
  | [] => [[]]
  | c :: rest =>
    if c = ',' then [] :: directivesOf rest
    else
      match directivesOf rest with
      | [] => [[c]]
      | part :: parts => (c :: part) :: parts

/-- Checks a directive with what is around it. -/
def checkDirective (text : List Char) : Except FilterFault Unit :=
  checkFrom text 0 .start (Text.trimChars text)

/-- Whether `EnvFilter::try_new` takes a filter: each directive must be one, empty ones apart. -/
def check (filter : String) : Except FilterFault Unit :=
  ((directivesOf filter.toList).filter fun part => !part.isEmpty).forM checkDirective

end LogFilter

end EngineBridge
