import EngineBridge.Json.Skim
import EngineBridge.Json.Text
import EngineBridge.Text.Basic
/-!
# Reading typed records

A `RecordType` says which members a record has and what each of them holds.  `readRecord`
reads one from an object (members in any order, each at most once) or from an array (members
by position).  What is well-formed JSON but no such record is a *misfit*; a misfit that shows
only between values is reported after the container has been closed as far as it goes.
-/

namespace EngineBridge.Json

def numberName : JsonNumber → String
  | .integer value => "integer `" ++ toString value ++ "`"
  | .float value => "floating point `" ++ value.text JsonNumber.layout ++ "`"

def wrongType (found expected : String) : Cause :=
  .misfit ("invalid type: " ++ found ++ ", expected " ++ expected)

/-- Refuses the value at the front, which is not what was expected.  A scalar is read first
and may stop the reader for reasons of its own. -/
def refuseValue {α : Type} (expected : String) : Bytes → Except Stop α
  | [] => stopAtEnd .endInValue
  | b :: rest =>
    if b = 0x6E then do
      stopBefore (wrongType "null" expected) (← expectWord nullTail rest)
    else if b = 0x74 then do
      stopBefore (wrongType "boolean `true`" expected) (← expectWord trueTail rest)
    else if b = 0x66 then do
      stopBefore (wrongType "boolean `false`" expected) (← expectWord falseTail rest)
    else if b = 0x2D then do
      let (value, rest) ← readNumber true rest
      stopBefore (wrongType (numberName value) expected) rest
    else if (digit? b).isSome then do
      let (value, rest) ← readNumber false (b :: rest)
      stopBefore (wrongType (numberName value) expected) rest
    else if b = 0x22 then do
      let (value, rest) ← readString rest
      stopBefore (wrongType ("string " ++ Text.quoted value) expected) rest
    else if b = 0x5B then stopBefore (wrongType "sequence" expected) (b :: rest)
    else if b = 0x7B then stopBefore (wrongType "map" expected) (b :: rest)
    else stopBefore .valueMissing rest

def readTextValue (input : Bytes) : Except Stop (String × Bytes) :=
  match skipBlanks input with
  | [] => stopAtEnd .endInValue
  | b :: rest => if b = 0x22 then readString rest else refuseValue "a string" (b :: rest)

def readBoolValue (input : Bytes) : Except Stop (Bool × Bytes) :=
  match skipBlanks input with
  | [] => stopAtEnd .endInValue
  | b :: rest =>
    if b = 0x74 then do return (true, ← expectWord trueTail rest)
    else if b = 0x66 then do return (false, ← expectWord falseTail rest)
    else refuseValue "a boolean" (b :: rest)

/-- Accepts a number that is an unsigned word; `word` is the name of the type. -/
def acceptWord (word : String) (value : JsonNumber) (rest : Bytes) :
    Except Stop (Nat × Bytes) :=
  match value with
  | .integer n =>
    if 0 ≤ n then .ok (n.toNat, rest)
    else stopBefore
      (.misfit ("invalid value: " ++ numberName value ++ ", expected " ++ word)) rest
  | .float _ => stopBefore (wrongType (numberName value) word) rest

/-- Reads an unsigned word. -/
def readWordValue (word : String) (input : Bytes) : Except Stop (Nat × Bytes) :=
  match skipBlanks input with
  | [] => stopAtEnd .endInValue
  | b :: rest =>
    if b = 0x2D then do
      let (value, rest) ← readNumber true rest
      acceptWord word value rest
    else if (digit? b).isSome then do
      let (value, rest) ← readNumber false (b :: rest)
      acceptWord word value rest
    else refuseValue word (b :: rest)

def readOptional {α : Type} (readPresent : Bytes → Except Stop (α × Bytes)) (input : Bytes) :
    Except Stop (Option α × Bytes) :=
  match skipBlanks input with
  | [] => do
    let (value, rest) ← readPresent []
    return (some value, rest)
  | b :: rest =>
    if b = 0x6E then do return (none, ← expectWord nullTail rest)
    else do
      let (value, rest) ← readPresent (b :: rest)
      return (some value, rest)

/-- Looks for the next element of an array: `none` at the closing bracket, which is left
unread, else the bytes at which the element begins. -/
def nextElement (isFirst : Bool) (input : Bytes) : Except Stop (Option Bytes × Bytes) :=
  match skipBlanks input with
  | [] => stopAtEnd .endInList
  | b :: rest =>
    if b = 0x5D then .ok (none, b :: rest)
    else if isFirst then .ok (some (b :: rest), b :: rest)
    else if b = 0x2C then
      match skipBlanks rest with
      | [] => stopAtEnd .endInValue
      | next :: rest =>
        if next = 0x5D then stopBefore .trailingComma rest
        else .ok (some (next :: rest), next :: rest)
    else stopBefore .commaOrBracketMissing rest

/-- Looks for the next member of an object: `none` at the closing brace, which is left
unread, else the bytes after the opening quote of its name. -/
def nextMember (isFirst : Bool) (input : Bytes) : Except Stop (Option Bytes × Bytes) :=
  match skipBlanks input with
  | [] => stopAtEnd .endInObject
  | b :: rest =>
    if b = 0x7D then .ok (none, b :: rest)
    else if isFirst then
      if b = 0x22 then .ok (some rest, rest) else stopBefore .nameNotString rest
    else if b = 0x2C then
      match skipBlanks rest with
      | [] => stopAtEnd .endInValue
      | next :: rest =>
        if next = 0x22 then .ok (some rest, rest)
        else if next = 0x7D then stopBefore .trailingComma rest
        else stopBefore .nameNotString rest
    else stopBefore .commaOrBraceMissing rest

/-- Closes an array after its elements have been taken. -/
def closeArray (input : Bytes) : Except Stop Bytes :=
  match skipBlanks input with
  | [] => stopAtEnd .endInList
  | b :: rest =>
    if b = 0x5D then .ok rest
    else if b = 0x2C then
      match skipBlanks rest with
      | 0x5D :: after => stopBefore .trailingComma after
      | [] => stopAtEnd .trailingText
      | _ :: after => stopBefore .trailingText after
    else stopBefore .trailingText rest

/-- Closes an object after its members have been taken. -/
def closeObject (input : Bytes) : Except Stop Bytes :=
  match skipBlanks input with
  | [] => stopAtEnd .endInObject
  | b :: rest =>
    if b = 0x7D then .ok rest
    else if b = 0x2C then stopBefore .trailingComma rest
    else stopBefore .trailingText rest

/-- Why a container ends early: a stop at a place of its own, or a misfit found in front of
some bytes. -/
inductive Interruption where
  | stop (early : Stop)
  | misfit (text : String) (rest : Bytes)

def interrupting {α : Type} (result : Except Stop α) : Except Interruption α :=
  result.mapError .stop

/-- The bytes left once an array has been closed as far as it goes. -/
def afterArray (rest : Bytes) : Bytes :=
  match skipBlanks rest with
  | [] => []
  | b :: rest =>
    if b = 0x5D then rest
    else if b = 0x2C then skipBlanks rest
    else b :: rest

/-- The bytes left once an object has been closed as far as it goes. -/
def afterObject (rest : Bytes) : Bytes :=
  match skipBlanks rest with
  | [] => []
  | b :: rest => if b = 0x7D then rest else b :: rest

/-- The stop that an interruption inside a container amounts to. -/
def Interruption.toStop (after : Bytes → Bytes) : Interruption → Stop
  | .stop early => early
  | .misfit text rest => ⟨.misfit text, (after rest).length⟩

/-- A member of a record under construction `ρ`. -/
structure Field (ρ : Type) where
  name : String
  /-- Reads the value and answers how it enters the record. -/
  read : Bytes → Except Stop ((ρ → ρ) × Bytes)
  /-- Whether the record already has the member. -/
  isGiven : ρ → Bool
  /-- Whether the member must be there. -/
  isRequired : Bool

/-- A kind of record: built as a `ρ`, finished as an `α`. -/
structure RecordType (ρ α : Type) where
  name : String
  fields : List (Field ρ)
  /-- A record without members. -/
  start : ρ
  /-- The finished record, if it has all that is required. -/
  finish : ρ → Option α
  /-- Whether members of other names are refused. -/
  isClosed : Bool

namespace RecordType

variable {ρ α : Type}

def expectation (type : RecordType ρ α) : String := "struct " ++ type.name

/-- What a record given by position is called in a misfit. -/
def lengthExpectation (type : RecordType ρ α) : String :=
  Text.recordOfLength type.name type.fields.length

def unknownText (type : RecordType ρ α) (name : String) : String :=
  Text.unknownField name (type.fields.map (·.name))

def missingText (name : String) : String := "missing field " ++ Text.ticked name

/-- Finishes a record whose members have all been read. -/
def complete (type : RecordType ρ α) (record : ρ) (rest : Bytes) : Except Interruption α :=
  match type.fields.find? fun field => field.isRequired && !field.isGiven record with
  | some field => .error (.misfit (missingText field.name) rest)
  | none =>
    match type.finish record with
    | some value => .ok value
    | none => .error (.misfit (missingText type.name) rest)

/-- Reads members by name up to the closing brace. -/
def readByName (type : RecordType ρ α) :
    Nat → Bool → ρ → Bytes → Except Interruption (α × Bytes)
  | 0, _, _, _ => .error (.stop ⟨.endInObject, 0⟩)
  | count + 1, isFirst, record, input => do
    let (next, rest) ← interrupting (nextMember isFirst input)
    match next with
    | none => return (← type.complete record rest, rest)
    | some rest =>
      let (name, rest) ← interrupting (readString rest)
      match type.fields.find? fun field => field.name = name with
      | some field =>
        if field.isGiven record then
          .error (.misfit ("duplicate field `" ++ name ++ "`") rest)
        else
          let rest ← interrupting (expectColon rest)
          let (enter, rest) ← interrupting (field.read rest)
          type.readByName count false (enter record) rest
      | none =>
        if type.isClosed then .error (.misfit (type.unknownText name) rest)
        else
          let rest ← interrupting (expectColon rest)
          let rest ← interrupting (skimValue rest)
          type.readByName count false record rest

/-- Reads members by position, as many as there are fields or elements. -/
def readByPosition (type : RecordType ρ α) :
    Nat → List (Field ρ) → ρ → Bytes → Except Interruption (α × Bytes)
  | _, [], record, input => do return (← type.complete record input, input)
  | place, field :: fields, record, input => do
    let (next, rest) ← interrupting (nextElement (place == 0) input)
    match next with
    | none =>
      if field.isRequired then
        .error (.misfit ("invalid length " ++ toString place ++ ", expected "
          ++ type.lengthExpectation) rest)
      else type.readByPosition (place + 1) fields record rest
    | some rest =>
      let (enter, rest) ← interrupting (field.read rest)
      type.readByPosition (place + 1) fields (enter record) rest

/-- Reads a record where `levels` containers may be opened inside one another. -/
def readAt (type : RecordType ρ α) (levels : Nat) (input : Bytes) : Except Stop (α × Bytes) :=
  match skipBlanks input with
  | [] => stopAtEnd .endInValue
  | b :: rest =>
    if b = 0x5B then
      if levels = 0 then stopBefore .tooDeep rest
      else do
        let (value, rest) ←
          (type.readByPosition 0 type.fields type.start rest).mapError (·.toStop afterArray)
        return (value, ← closeArray rest)
    else if b = 0x7B then
      if levels = 0 then stopBefore .tooDeep rest
      else do
        let (value, rest) ←
          (type.readByName (rest.length + 1) true type.start rest).mapError
            (·.toStop afterObject)
        return (value, ← closeObject rest)
    else refuseValue type.expectation (b :: rest)

def readText (type : RecordType ρ α) (text : String) : Except ReadError α :=
  runStep (type.readAt greatestDepth) (Utf8.encode text)

end RecordType

def readTexts : Nat → Bool → List String → Bytes → Except Stop (List String × Bytes)
  | 0, _, _, _ => stopAtEnd .endInList
  | count + 1, isFirst, done, input => do
    let (next, rest) ← nextElement isFirst input
    match next with
    | none => return (done.reverse, rest)
    | some rest =>
      let (text, rest) ← readTextValue rest
      readTexts count false (text :: done) rest

/-- Reads an array of strings, itself inside one container. -/
def readTextsValue (input : Bytes) : Except Stop (List String × Bytes) :=
  match skipBlanks input with
  | [] => stopAtEnd .endInValue
  | b :: rest =>
    if b = 0x5B then do
      let (texts, rest) ← readTexts (rest.length + 1) true [] rest
      return (texts, ← closeArray rest)
    else refuseValue "a sequence" (b :: rest)

end EngineBridge.Json
