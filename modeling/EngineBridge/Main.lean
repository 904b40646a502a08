import EngineBridge.Command.Lookup
/-!
# The program: `main`

Shows a command line the variables and files it looks at, runs it, and carries its ending
out.  Whatever is decided is decided in `Command.run`.  Library files are found, but none can
be loaded here.
-/

namespace EngineBridge.Program

def look (path : String) : IO (Option Entry) := do
  try
    return some (.file (← IO.FS.readBinFile path).toList)
  catch
    | .inappropriateType .. => return some .folder
    | _ => return none

/-- Adds what is at the places that a path leads through. -/
def survey (cwd : FilePlace) (files : FileTree) (path : String) : IO FileTree :=
  (FileTree.placesOf cwd path).foldlM
    (fun files place => do
      match files.entry? place, ← look (FileTree.pathOf place) with
      | none, some entry => return files.put place entry
      | _, _ => return files)
    files

def readVariables : IO (List (String × List UInt8)) :=
  Command.variableNames.filterMapM fun name => do
    return (← IO.getEnv name).map fun value => (name, Utf8.encode value)

def homeFolder : IO (Option String) := do
  return (← IO.getEnv "HOME").filter fun folder => !folder.isEmpty

def readInput (words : List String) : IO (List UInt8) := do
  if words.contains "-" then return (← (← IO.getStdin).readBinToEnd).toList else return []

def writeChanges (before after : FileTree) : IO Unit :=
  (before.changes after).forM fun (place, entry) =>
    match entry with
    | .file bytes => IO.FS.writeBinFile (FileTree.pathOf place) ⟨bytes.toArray⟩
    | .folder => pure ()

def waitForEver : IO UInt32 := repeatM (fun _ => do IO.sleep 1000; return .inl ()) ()

/-- Carries an ending out and answers the exit code. -/
def finish (before : FileTree) (ending : Command.Ending) : IO UInt32 := do
  try
    writeChanges before (ending.filesAfter before)
    let out ← IO.getStdout
    out.write ⟨ending.output.toArray⟩
    out.flush
    IO.eprint ending.errorText
    match ending.exitCode with
    | some code => return code.toUInt32
    | none => waitForEver
  catch error =>
    IO.eprintln (Report.plain (toString error)).text
    return 1

/-- Runs a command line on the files and variables that are there. -/
def run (words : List String) : IO UInt32 := do
  let environment : Environment := ⟨← readVariables⟩
  let cwd : FilePlace := (Path.pieces (toString (← IO.currentDir))).filter (· ≠ "")
  let home ← homeFolder
  let input ← readInput words
  let session (files : FileTree) : Command.Session :=
    ⟨⟨files, cwd, environment, home⟩, input, fun _ => .error "native code cannot be loaded"⟩
  let files ← ("." :: Command.pathsBefore cwd home environment words).foldlM (survey cwd) .empty
  let files ← (Command.libraryPaths (session files) words).foldlM (survey cwd) files
  finish files (Command.run (session files) words)

end EngineBridge.Program

def main (words : List String) : IO UInt32 := EngineBridge.Program.run words
