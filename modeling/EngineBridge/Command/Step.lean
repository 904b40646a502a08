import EngineBridge.Bridge.Error
import EngineBridge.Command.LogFilter
import EngineBridge.Files.Tree
/-!
# Steps of a command, and what `main` prints of an error

A command is made of steps.  A step looks at what there is, prints, writes a file, or stops, and
what was done before a stop stays done: nothing is taken back.

A command that fails prints a report: the failure and the chain of causes behind it.  A single
cause is indented, several are numbered; the further lines of a cause stand under its first.
-/

namespace EngineBridge

/-! ## Reports -/

structure Report where
  message : String
  causes : List String
deriving DecidableEq, Repr

namespace Report

def plain (message : String) : Report := ⟨message, []⟩

def numberText (n : Nat) : String :=
  let digits := toString n
  String.ofList (List.replicate (5 - digits.length) ' ') ++ digits

/-- The text with a margin after each line end. -/
def withMargin (margin text : String) : String :=
  text.toList.foldl
    (fun out c => if c = '\n' then out.push c ++ margin else out.push c) ""

/-- Causes with their numbers, counted from some number. -/
def numbered : Nat → List String → List String
  | _, [] => []
  | n, cause :: causes =>
    (numberText n ++ ": " ++ withMargin "       " cause) :: numbered (n + 1) causes

def causeLines : List String → List String
  | [] => []
  | [cause] => ["    " ++ withMargin "    " cause]
  | causes => numbered 0 causes

/-- The report as it is printed. -/
def text (report : Report) : String :=
  "Error: " ++ report.message ++
    if report.causes.isEmpty then ""
    else "\n\nCaused by:\n" ++ "\n".intercalate (causeLines report.causes)

end Report

namespace Command

/-! ## Steps -/

/-- Why a command breaks down instead of failing. -/
inductive Breakdown where
  /-- The engine broke the rules of the boundary. -/
  | violation (breach : Violation)
  /-- A part of the log filter begins or ends inside of a character. -/
  | tornFilter
deriving DecidableEq, Repr

def Breakdown.text : Breakdown → String
  | violation breach => breach.faultText
  | tornFilter => FilterFault.tornCharacter.message

/-- Why a command does not get to its end. -/
inductive Stop where
  | report (report : Report)
  | fault (breakdown : Breakdown)
  /-- It waits for an answer that never comes, and so does not stop at all. -/
  | standstill

namespace Stop

/-- The exit code, if the command ever exits. -/
def exitCode : Stop → Option Nat
  | report _ => some 1
  | fault _ => some 101
  | standstill => none

def errorText : Stop → String
  | report reason => reason.text ++ "\n"
  | fault breakdown => breakdown.text ++ "\n"
  | standstill => ""

end Stop

/-- Stops with a failure and the error that caused it. -/
def stopWith {α : Type} (message cause : String) : Except Stop α :=
  .error (.report ⟨message, [cause]⟩)

/-- Says what was being done when a call of the bridge failed. -/
def doing {α : Type} (what : String) (result : Except Failure α) : Except Stop α :=
  match result with
  | .ok value => .ok value
  | .error (.error error) => stopWith what error.message
  | .error (.fault violation) => .error (.fault (.violation violation))

/-- What a command has done so far: the bytes on standard output, and the files as they are
now. -/
structure Progress where
  output : List UInt8
  files : FileTree

/-- A part of a command. -/
abbrev Step (α : Type) := ExceptT Stop (StateM Progress) α

namespace Step

variable {α : Type}

def take (step : Step α) (done : Progress) : Except Stop α × Progress :=
  ((ExceptT.run step).run done).run

def print (bytes : List UInt8) : Step Unit :=
  modify fun done => { done with output := done.output ++ bytes }

def printLine (text : String) : Step Unit := print (Utf8.encode (text ++ "\n"))

def save (cwd : FilePlace) (path : String) (bytes : List UInt8) : Step Unit := do
  match (← get).files.write cwd path bytes with
  | .ok files => modify fun done => { done with files := files }
  | .error error => stopWith ("Failed to write " ++ path) error.message

end Step

end Command

end EngineBridge
