/-!
# Path texts: `components`, `join` and `ancestors` of a path

A path is a text of pieces between slashes.  An empty piece, and a single dot anywhere but
at the very begin of a relative path, name nothing; a path is absolute when it begins with a
slash.  All functions here look at the text alone, never at any files.

* `componentCount` — how many pieces name something;
* `join` — a path seen from another one;
* `ancestors` — the path itself and, one after the other, what is left without its last
  piece.
-/

namespace EngineBridge.Path

/-- The pieces of a text between slashes. -/
def piecesOf : List Char → List (List Char)
  | [] => [[]]
  | c :: rest =>
    if c = '/' then [] :: piecesOf rest
    else
      match piecesOf rest with
      | [] => [[c]]
      | piece :: pieces => (c :: piece) :: pieces

def pieces (path : String) : List String := (piecesOf path.toList).map String.ofList

def isAbsolute (path : String) : Bool :=
  match path.toList with
  | '/' :: _ => true
  | _ => false

/-- The pieces after the slash that an absolute path begins with, last one first. -/
def reversedBody (path : String) : List String :=
  (if isAbsolute path then (pieces path).drop 1 else pieces path).reverse

/-- Whether a piece with `before` in front of it names nothing. -/
def isIdle (absolute : Bool) (piece : String) (before : List String) : Bool :=
  piece = "" || (piece = "." && (absolute || !before.isEmpty))

/-- Pieces, last one first, without the idle ones at the end. -/
def dropIdle (absolute : Bool) : List String → List String
  | [] => []
  | piece :: before =>
    if isIdle absolute piece before then dropIdle absolute before else piece :: before

/-- Number of the pieces that name something. -/
def countNamed (absolute : Bool) : List String → Nat
  | [] => 0
  | piece :: before =>
    (if isIdle absolute piece before then 0 else 1) + countNamed absolute before

/-- How many pieces name something; the slash at the begin counts too. -/
def componentCount (path : String) : Nat :=
  (if isAbsolute path then 1 else 0) + countNamed (isAbsolute path) (reversedBody path)

def textOf (absolute : Bool) (reversed : List String) : String :=
  (if absolute then "/" else "") ++ "/".intercalate reversed.reverse

/-- The texts that are left, one after the other, when named pieces are taken off the end. -/
def parentsOf (absolute : Bool) : List String → List String
  | [] => []
  | piece :: before =>
    if isIdle absolute piece before then parentsOf absolute before
    else textOf absolute (dropIdle absolute before) :: parentsOf absolute before

/-- The path and the paths above it. -/
def ancestors (path : String) : List String :=
  path :: parentsOf (isAbsolute path) (reversedBody path)

/-- A path seen from another one. -/
def join (base path : String) : String :=
  if isAbsolute path then path
  else if base = "" ∨ base.endsWith "/" then base ++ path
  else base ++ "/" ++ path

end EngineBridge.Path
