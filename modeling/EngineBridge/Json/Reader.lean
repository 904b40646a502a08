import EngineBridge.Json.Number
import EngineBridge.Json.Scan
/-!
# Reading JSON (`serde_json::from_slice`)

`Json.read` answers the value of a byte string or the first place where it is no JSON.  At
most `greatestDepth` containers may be nested.  The last of several members of one name
wins.

Recursion is on the number of levels that may still be opened, and along a container on a
count of elements that starts at the number of bytes: each element takes at least one byte,
so the count is never what ends a loop.
-/

namespace EngineBridge.Json

/-- How many containers may stand inside one another. -/
def greatestDepth : Nat := 127

/-- Reads a value that begins at the first byte that is no blank, with readers for what
follows the opening bracket of an array or brace of an object. -/
def readWith (readArray readObject : Bytes → Except Stop (Json × Bytes)) (input : Bytes) :
    Except Stop (Json × Bytes) :=
  match skipBlanks input with
  | [] => stopAtEnd .endInValue
  | b :: rest =>
    if b = 0x22 then do
      let (value, rest) ← readString rest
      return (.string value, rest)
    else if b = 0x5B then readArray rest
    else if b = 0x7B then readObject rest
    else if b = 0x2D then do
      let (value, rest) ← readNumber true rest
      return (.number value, rest)
    else if (digit? b).isSome then do
      let (value, rest) ← readNumber false (b :: rest)
      return (.number value, rest)
    else if b = 0x6E then do
      return (.null, ← expectWord nullTail rest)
    else if b = 0x74 then do
      return (.bool true, ← expectWord trueTail rest)
    else if b = 0x66 then do
      return (.bool false, ← expectWord falseTail rest)
    else stopBefore .valueMissing rest

def readElements (readValue : Bytes → Except Stop (Json × Bytes)) :
    Nat → List Json → Bytes → Except Stop (List Json × Bytes)
  | 0, _, _ => stopAtEnd .endInList
  | count + 1, done, input => do
    let (value, rest) ← readValue input
    match skipBlanks rest with
    | [] => stopAtEnd .endInList
    | b :: rest =>
      if b = 0x5D then return ((value :: done).reverse, rest)
      else if b = 0x2C then
        match skipBlanks rest with
        | [] => stopAtEnd .endInValue
        | next :: rest =>
          if next = 0x5D then stopBefore .trailingComma rest
          else readElements readValue count (value :: done) (next :: rest)
      else stopBefore .commaOrBracketMissing rest

def readArray (readValue : Bytes → Except Stop (Json × Bytes)) (count : Nat) (input : Bytes) :
    Except Stop (List Json × Bytes) :=
  match skipBlanks input with
  | [] => stopAtEnd .endInList
  | b :: rest =>
    if b = 0x5D then .ok ([], rest) else readElements readValue count [] (b :: rest)

def expectColon (input : Bytes) : Except Stop Bytes :=
  match skipBlanks input with
  | [] => stopAtEnd .endInObject
  | b :: rest => if b = 0x3A then .ok rest else stopBefore .colonMissing rest

/-- Reads the members of an object from the next one on, whose opening quote has been read;
`done` holds those read, reversed. -/
def readMembers (readValue : Bytes → Except Stop (Json × Bytes)) :
    Nat → List (String × Json) → Bytes → Except Stop ((List (String × Json)) × Bytes)
  | 0, _, _ => stopAtEnd .endInObject
  | count + 1, done, input => do
    let (name, rest) ← readString input
    let rest ← expectColon rest
    let (value, rest) ← readValue rest
    match skipBlanks rest with
    | [] => stopAtEnd .endInObject
    | b :: rest =>
      if b = 0x7D then return (((name, value) :: done).reverse, rest)
      else if b = 0x2C then
        match skipBlanks rest with
        | [] => stopAtEnd .endInValue
        | next :: rest =>
          if next = 0x22 then readMembers readValue count ((name, value) :: done) rest
          else if next = 0x7D then stopBefore .trailingComma rest
          else stopBefore .nameNotString rest
      else stopBefore .commaOrBraceMissing rest

/-- Reads what follows the opening brace of an object: all its members, in order. -/
def readObject (readValue : Bytes → Except Stop (Json × Bytes)) (count : Nat) (input : Bytes) :
    Except Stop ((List (String × Json)) × Bytes) :=
  match skipBlanks input with
  | [] => stopAtEnd .endInObject
  | b :: rest =>
    if b = 0x7D then .ok ([], rest)
    else if b = 0x22 then readMembers readValue count [] rest
    else stopBefore .nameNotString rest

/-- Reads a value in which `levels` containers may be opened inside one another. -/
def readValue (count : Nat) : (levels : Nat) → Bytes → Except Stop (Json × Bytes)
  | 0 => readWith (fun rest => stopBefore .tooDeep rest) (fun rest => stopBefore .tooDeep rest)
  | levels + 1 =>
    readWith
      (fun rest => do
        let (elements, rest) ← readArray (readValue count levels) count rest
        return (.array elements, rest))
      (fun rest => do
        let (members, rest) ← readObject (readValue count levels) count rest
        return (.object (NameMap.ofList members), rest))

def expectEnd (input : Bytes) : Except Stop Unit :=
  match skipBlanks input with
  | [] => .ok ()
  | _ :: rest => stopBefore .trailingText rest

/-- Runs a reading step on a whole input. -/
def runStep {α : Type} (step : Bytes → Except Stop (α × Bytes)) (input : Bytes) :
    Except ReadError α :=
  match (do let (value, rest) ← step input; expectEnd rest; return value) with
  | .ok value => .ok value
  | .error stop => .error (.of input stop)

/-- Reads an object that begins at the first byte that is no blank: all its members, in
order and with those of equal names. -/
def readMembersValue (input : Bytes) : Except Stop (List (String × Json) × Bytes) :=
  match skipBlanks input with
  | [] => stopAtEnd .endInValue
  | b :: rest =>
    if b = 0x7B then
      readObject (readValue (input.length + 1) (greatestDepth - 1)) (input.length + 1) rest
    else stopBefore .valueMissing rest

/-- The members of the object that a text holds, in order. -/
def readMembersText (text : String) : Except ReadError (List (String × Json)) :=
  runStep readMembersValue (Utf8.encode text)

def read (input : Bytes) : Except ReadError Json :=
  runStep (readValue (input.length + 1) greatestDepth) input

def readText (text : String) : Except ReadError Json :=
  read (Utf8.encode text)

end EngineBridge.Json
