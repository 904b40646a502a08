/-!
# Where and why reading JSON stops

A reader consumes a byte string from the front.  When it stops it knows the cause and how
many bytes lie after the reported place; `ReadError.of` turns that count into a line and a
column of the whole input.  Lines end at a line feed and columns count bytes.
-/

namespace EngineBridge.Json

abbrev Bytes := List UInt8

inductive Cause where
  | endInList
  | endInObject
  | endInString
  | endInValue
  | colonMissing
  | commaOrBracketMissing
  | commaOrBraceMissing
  | wordMissing
  | valueMissing
  | badEscape
  | badNumber
  | numberTooLarge
  | badCodePoint
  | controlCharacter
  | nameNotString
  | loneSurrogate
  | trailingComma
  | trailingText
  | hexEscapeEnds
  | tooDeep
  /-- Well-formed JSON that is not what was expected here. -/
  | misfit (text : String)
deriving DecidableEq, Repr

def Cause.message : Cause → String
  | endInList => "EOF while parsing a list"
  | endInObject => "EOF while parsing an object"
  | endInString => "EOF while parsing a string"
  | endInValue => "EOF while parsing a value"
  | colonMissing => "expected `:`"
  | commaOrBracketMissing => "expected `,` or `]`"
  | commaOrBraceMissing => "expected `,` or `\x7d`"
  | wordMissing => "expected ident"
  | valueMissing => "expected value"
  | badEscape => "invalid escape"
  | badNumber => "invalid number"
  | numberTooLarge => "number out of range"
  | badCodePoint => "invalid unicode code point"
  | controlCharacter => "control character (\\u0000-\\u001F) found while parsing a string"
  | nameNotString => "key must be a string"
  | loneSurrogate => "lone leading surrogate in hex escape"
  | trailingComma => "trailing comma"
  | trailingText => "trailing characters"
  | hexEscapeEnds => "unexpected end of hex escape"
  | tooDeep => "recursion limit exceeded"
  | misfit text => text

/-- A stop: the cause and the number of bytes after the reported place. -/
structure Stop where
  cause : Cause
  left : Nat
deriving DecidableEq, Repr

def stopBefore {α : Type} (cause : Cause) (bytes : Bytes) : Except Stop α :=
  .error ⟨cause, bytes.length⟩

def stopAtEnd {α : Type} (cause : Cause) : Except Stop α :=
  .error ⟨cause, 0⟩

structure Place where
  line : Nat
  column : Nat
deriving DecidableEq, Repr

def Place.next (place : Place) (b : UInt8) : Place :=
  if b = 0x0A then ⟨place.line + 1, 0⟩ else ⟨place.line, place.column + 1⟩

/-- The place reached by reading all the bytes. -/
def Place.after (bytes : Bytes) : Place :=
  bytes.foldl Place.next ⟨1, 0⟩

/-- Why and at which place a text is refused. -/
structure ReadError where
  cause : Cause
  place : Place
deriving DecidableEq, Repr

/-- The error of a stop while reading `bytes`. -/
def ReadError.of (bytes : Bytes) (stop : Stop) : ReadError :=
  ⟨stop.cause, Place.after (bytes.take (bytes.length - stop.left))⟩

def ReadError.message (error : ReadError) : String :=
  error.cause.message ++ " at line " ++ toString error.place.line ++ " column "
    ++ toString error.place.column

end EngineBridge.Json
