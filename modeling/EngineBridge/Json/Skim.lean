import EngineBridge.Json.Reader
/-!
# Passing over a value

The value of a member that nobody asked for is passed over, not read: nesting is not
limited, names and strings need not be UTF-8 or hold whole surrogate pairs, and numbers may
be out of range.  The places of errors follow rules of their own.
-/

namespace EngineBridge.Json

/-- Passes over a string whose opening quote has been read; `escape` holds how far into an
escape the reader is: its number of bytes read, with the digits among them. -/
def skimString : Option (List UInt8) → Bytes → Except Stop Bytes
  | _, [] => stopAtEnd .endInString
  | none, b :: rest =>
    if b = 0x22 then .ok rest
    else if b = 0x5C then skimString (some []) rest
    else if b < 0x20 then stopBefore .controlCharacter (b :: rest)
    else skimString none rest
  | some read, b :: rest =>
    match read with
    | [] =>
      if b = 0x75 then skimString (some [b]) rest
      else if (shortEscape? b).isSome then skimString none rest
      else stopBefore .badEscape rest
    | mark :: digits =>
      if digits.length < 3 then skimString (some (mark :: b :: digits)) rest
      else if (hexNumber? (b :: digits).reverse).isSome then skimString none rest
      else stopBefore .badEscape rest

/-- Passes over the digits of an exponent, of which there must be one. -/
def skimExponentDigits : Bytes → Except Stop Bytes
  | [] => stopAtEnd .badNumber
  | b :: rest => if (digit? b).isSome then .ok (skipDigits rest) else stopBefore .badNumber rest

def skimExponent : Bytes → Except Stop Bytes
  | 0x2B :: rest => skimExponentDigits rest
  | 0x2D :: rest => skimExponentDigits rest
  | input => skimExponentDigits input

/-- Passes over what may follow the digits before the point or after it. -/
def skimNumberEnd (input : Bytes) : Except Stop Bytes :=
  match input with
  | b :: rest => if isExponentMark b then skimExponent rest else .ok input
  | [] => .ok []

/-- Passes over the digits after the point, of which there must be one. -/
def skimFraction : Bytes → Except Stop Bytes
  | [] => stopAtEnd .badNumber
  | b :: rest =>
    if (digit? b).isSome then skimNumberEnd (skipDigits rest) else stopBefore .badNumber rest

/-- Passes over what may follow the digits before the point. -/
def skimWholeEnd (input : Bytes) : Except Stop Bytes :=
  match input with
  | 0x2E :: rest => skimFraction rest
  | _ => skimNumberEnd input

/-- Passes over a number without its sign. -/
def skimNumber : Bytes → Except Stop Bytes
  | [] => stopAtEnd .badNumber
  | b :: rest =>
    match digit? b with
    | some 0 =>
      match rest with
      | next :: after =>
        if (digit? next).isSome then stopBefore .badNumber after else skimWholeEnd rest
      | [] => skimWholeEnd []
    | some _ => skimWholeEnd (skipDigits rest)
    | none => stopBefore .badNumber rest

/-- What is to be passed over next: a value, or what follows one (or an opening bracket)
inside the innermost open container. -/
inductive SkimTask where
  | value
  | inside (afterValue : Bool)
deriving DecidableEq, Repr

def skimName (input : Bytes) : Except Stop Bytes :=
  match skipBlanks input with
  | [] => stopAtEnd .endInObject
  | b :: rest =>
    if b = 0x22 then do expectColon (← skimString none rest)
    else stopBefore .nameNotString rest

/-- Passes over values and brackets until every open container is closed; of each open
container the stack says whether it is an object. -/
def skim : Nat → SkimTask → List Bool → Bytes → Except Stop Bytes
  | 0, _, _, _ => stopAtEnd .endInValue
  | count + 1, .value, stack, input =>
    match skipBlanks input with
    | [] => stopAtEnd .endInValue
    | b :: rest =>
      if b = 0x5B then skim count (.inside false) (false :: stack) rest
      else if b = 0x7B then skim count (.inside false) (true :: stack) rest
      else do
        let rest ←
          if b = 0x22 then skimString none rest
          else if b = 0x2D then skimNumber rest
          else if (digit? b).isSome then skimNumber (b :: rest)
          else if b = 0x6E then expectWord nullTail rest
          else if b = 0x74 then expectWord trueTail rest
          else if b = 0x66 then expectWord falseTail rest
          else stopBefore .valueMissing rest
        skim count (.inside true) stack rest
  | _ + 1, .inside _, [], input => .ok input
  | count + 1, .inside afterValue, isObject :: outer, input =>
    match skipBlanks input with
    | [] => stopAtEnd (if isObject then .endInObject else .endInList)
    | b :: rest =>
      if b = (if isObject then 0x7D else 0x5D) then skim count (.inside true) outer rest
      else if afterValue && b ≠ 0x2C then
        stopBefore (if isObject then .commaOrBraceMissing else .commaOrBracketMissing) rest
      else do
        let next := if afterValue then rest else b :: rest
        let next ← if isObject then skimName next else pure next
        skim count .value (isObject :: outer) next

/-- Passes over one value; each byte gives rise to at most two tasks. -/
def skimValue (input : Bytes) : Except Stop Bytes :=
  skim (2 * input.length + 2) .value [] input

end EngineBridge.Json
