import EngineBridge.Toml.Number
/-!
# TOML dates and times

A date, a time, or both, the latter with or without an offset.  Days fit their month, hours
go to 23, minutes to 59 and seconds to 60.
-/

namespace EngineBridge.Toml

def readFixed : (count value : Nat) → List Char → Option (Nat × List Char)
  | 0, value, input => some (value, input)
  | _ + 1, _, [] => none
  | count + 1, value, c :: rest =>
    match digitOf? 10 c with
    | some digit => readFixed count (value * 10 + digit) rest
    | none => none

/-- Reads two digits that make a number between two bounds. -/
def readPair (least greatest : Nat) (input : List Char) : Option (Nat × List Char) := do
  let (value, rest) ← readFixed 2 0 input
  if least ≤ value ∧ value ≤ greatest then some (value, rest) else none

def afterChar (c : Char) : List Char → Option (List Char)
  | [] => none
  | first :: rest => if first = c then some rest else none

def isLeapYear (year : Nat) : Bool :=
  year % 4 = 0 && (year % 100 ≠ 0 || year % 400 = 0)

def lastDay (year month : Nat) : Nat :=
  if month = 2 then if isLeapYear year then 29 else 28
  else if month = 4 ∨ month = 6 ∨ month = 9 ∨ month = 11 then 30
  else 31

def afterDate (input : List Char) : Option (List Char) := do
  let (year, rest) ← readFixed 4 0 input
  let (month, rest) ← readPair 1 12 (← afterChar '-' rest)
  let (_, rest) ← readPair 1 (lastDay year month) (← afterChar '-' rest)
  return rest

/-- What follows digits, at least one. -/
def afterDigits (input : List Char) : Option (List Char) :=
  match input with
  | c :: rest =>
    if (digitOf? 10 c).isSome then some (rest.dropWhile fun c => (digitOf? 10 c).isSome)
    else none
  | [] => none

def afterTime (input : List Char) : Option (List Char) := do
  let (_, rest) ← readPair 0 23 input
  let (_, rest) ← readPair 0 59 (← afterChar ':' rest)
  let (_, rest) ← readPair 0 60 (← afterChar ':' rest)
  match rest with
  | '.' :: rest => afterDigits rest
  | _ => return rest

/-- What follows an offset, if there is one. -/
def afterOffset (input : List Char) : Option (List Char) :=
  match input with
  | c :: rest =>
    if c = 'Z' ∨ c = 'z' then some rest
    else if c = '+' ∨ c = '-' then do
      let (_, rest) ← readPair 0 23 rest
      let (_, rest) ← readPair 0 59 (← afterChar ':' rest)
      return rest
    else some input
  | [] => some []

/-- Whether a date begins here: four digits and a hyphen. -/
def beginsDate (input : List Char) : Bool :=
  ((readFixed 4 0 input).bind fun (_, rest) => afterChar '-' rest).isSome

/-- Whether a time begins here: two digits and a colon. -/
def beginsTime (input : List Char) : Bool :=
  ((readFixed 2 0 input).bind fun (_, rest) => afterChar ':' rest).isSome

/-- What follows a date and the time that may stand behind it, after a `T` or a space. -/
def afterDateTime (input : List Char) : Option (List Char) := do
  let rest ← afterDate input
  match rest with
  | c :: time =>
    if (c = 'T' ∨ c = 't' ∨ c = ' ') ∧ beginsTime time then afterOffset (← afterTime time)
    else return rest
  | [] => return rest

/-- The value that ends where some other text begins. -/
def momentUpTo (input rest : List Char) : Toml × List Char :=
  (.moment (String.ofList (input.take (input.length - rest.length))), rest)

/-- Reads a number, a date or a time. -/
def readNumberOrMoment (input : List Char) : Option (Toml × List Char) :=
  if beginsDate input then (afterDateTime input).map (momentUpTo input)
  else if beginsTime input then (afterTime input).map (momentUpTo input)
  else readNumber input

end EngineBridge.Toml
