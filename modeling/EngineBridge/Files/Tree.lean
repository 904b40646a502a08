import EngineBridge.Files.Path
import EngineBridge.Text.Utf8
/-!
# Files as data

A `FileTree` holds regular files and folders under the root; there are no links.  A place is
the list of names from the root.  A path is followed piece by piece, through folders only:
two dots lead to the folder above, and a missing piece ends the walk even when two dots come
after it.  A name has at most 255 bytes, which is looked at when its folder is reached, and a
path at most 4095.
-/

namespace EngineBridge

inductive Entry where
  | file (bytes : List UInt8)
  | folder
deriving DecidableEq, Repr

/-- The names that lead from the root to a file or folder. -/
abbrev FilePlace := List String

structure FileTree where
  entries : List (FilePlace × Entry)
deriving Repr

/-- Why a file cannot be read or written. -/
inductive FileError where
  | notFound
  | notFolder
  | isFolder
  | nameTooLong
  | holdsNul
  | notText
deriving DecidableEq, Repr

def FileError.message : FileError → String
  | notFound => "No such file or directory (os error 2)"
  | notFolder => "Not a directory (os error 20)"
  | isFolder => "Is a directory (os error 21)"
  | nameTooLong => "File name too long (os error 36)"
  | holdsNul => "file name contained an unexpected NUL byte"
  | notText => "stream did not contain valid UTF-8"

namespace FileTree

def empty : FileTree := ⟨[]⟩

/-- What a place holds; the root is a folder. -/
def entry? (tree : FileTree) (place : FilePlace) : Option Entry :=
  if place = [] then some .folder else tree.entries.lookup place

def set (tree : FileTree) (place : FilePlace) (entry : Entry) : FileTree :=
  ⟨(place, entry) :: tree.entries.filter fun other => other.1 ≠ place⟩

/-- Makes a folder at a place where there is nothing. -/
def addFolder (tree : FileTree) (place : FilePlace) : FileTree :=
  match tree.entry? place with
  | some _ => tree
  | none => tree.set place .folder

/-- The places on the way to a place, the root and the place itself left out. -/
def placesAbove (place : FilePlace) : List FilePlace :=
  (List.range place.length).filterMap fun count =>
    if count = 0 then none else some (place.take count)

/-- Puts an entry at a place and makes the folders on the way to it. -/
def put (tree : FileTree) (place : FilePlace) (entry : Entry) : FileTree :=
  ((placesAbove place).foldl addFolder tree).set place entry

def greatestName : Nat := 255

def greatestPath : Nat := 4095

/-- Refuses a path that no file system looks at. -/
def checkPath (path : String) : Except FileError Unit :=
  if path.toList.any (·.toNat = 0) then .error .holdsNul
  else if path = "" then .error .notFound
  else if greatestPath < path.utf8ByteSize then .error .nameTooLong
  else .ok ()

/-- Follows the pieces of a path from a place. -/
def follow (tree : FileTree) : FilePlace → List String → Except FileError FilePlace
  | place, [] => .ok place
  | place, piece :: pieces =>
    match tree.entry? place with
    | none => .error .notFound
    | some (.file _) => .error .notFolder
    | some .folder =>
      if piece = "" ∨ piece = "." then tree.follow place pieces
      else if piece = ".." then tree.follow place.dropLast pieces
      else if greatestName < piece.utf8ByteSize then .error .nameTooLong
      else if (tree.entry? (place ++ [piece])).isSome then tree.follow (place ++ [piece]) pieces
      else .error .notFound

/-- The places that pieces lead through from a place, whether there is anything or not. -/
def placesAlong : FilePlace → List String → List FilePlace
  | _, [] => []
  | place, piece :: pieces =>
    let next :=
      if piece = "" ∨ piece = "." then place
      else if piece = ".." then place.dropLast
      else place ++ [piece]
    next :: placesAlong next pieces

/-- Where a path begins, seen from a folder. -/
def startOf (cwd : FilePlace) (path : String) : FilePlace :=
  if Path.isAbsolute path then [] else cwd

/-- The place that a path leads to from a folder. -/
def find (tree : FileTree) (cwd : FilePlace) (path : String) : Except FileError FilePlace := do
  checkPath path
  tree.follow (startOf cwd path) (Path.pieces path)

/-- What a path leads to. -/
def at? (tree : FileTree) (cwd : FilePlace) (path : String) : Option Entry :=
  match tree.find cwd path with
  | .ok place => tree.entry? place
  | .error _ => none

def exists? (tree : FileTree) (cwd : FilePlace) (path : String) : Bool :=
  (tree.at? cwd path).isSome

def isFile (tree : FileTree) (cwd : FilePlace) (path : String) : Bool :=
  match tree.at? cwd path with
  | some (.file _) => true
  | _ => false

def read (tree : FileTree) (cwd : FilePlace) (path : String) :
    Except FileError (List UInt8) := do
  match tree.entry? (← tree.find cwd path) with
  | some (.file bytes) => return bytes
  | some .folder => .error .isFolder
  | none => .error .notFound

def readText (tree : FileTree) (cwd : FilePlace) (path : String) : Except FileError String := do
  match Utf8.decode (← tree.read cwd path) with
  | .ok text => return text
  | .error _ => .error .notText

/-- Writes a file at the place of a name in a folder. -/
def writeAt (tree : FileTree) (folder : FilePlace) (name : String) (bytes : List UInt8) :
    Except FileError FileTree :=
  match tree.entry? folder with
  | none => .error .notFound
  | some (.file _) => .error .notFolder
  | some .folder =>
    if name = "" ∨ name = "." ∨ name = ".." then .error .isFolder
    else if greatestName < name.utf8ByteSize then .error .nameTooLong
    else
      match tree.entry? (folder ++ [name]) with
      | some .folder => .error .isFolder
      | _ => .ok (tree.set (folder ++ [name]) (.file bytes))

/-- Writes a file, a new one or in place of an old one; its folder must be there.  A path that
ends in a slash names no file. -/
def write (tree : FileTree) (cwd : FilePlace) (path : String) (bytes : List UInt8) :
    Except FileError FileTree := do
  checkPath path
  let pieces := (Path.pieces path).reverse
  let name := if path.endsWith "/" then "" else pieces.headD ""
  let above := (pieces.dropWhile (· = "")).drop 1
  tree.writeAt (← tree.follow (startOf cwd path) above.reverse) name bytes

/-- The places that a path seen from a folder leads through, whether there is anything or
not. -/
def placesOf (cwd : FilePlace) (path : String) : List FilePlace :=
  placesAlong (startOf cwd path) (Path.pieces path)

/-- The entries that are new or not as they were before. -/
def changes (before after : FileTree) : List (FilePlace × Entry) :=
  after.entries.filter fun (place, entry) => before.entry? place ≠ some entry

def pathOf (place : FilePlace) : String := "/" ++ "/".intercalate place

end FileTree

end EngineBridge
