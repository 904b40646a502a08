import EngineBridge.Toml.Basic
/-!
# Tables under construction

A document is a list of statements: an entry of the current table, the header of a table, or
the header of a further element of an array of tables.  Names may be paths; the tables on
the way are made when they are missing.  How a table was made says what may be added to it
later:

* `explicit` — by its own header: nothing under a dotted name;
* `implied` — on the way to a header: its own header may follow once, and then the table
  moves behind those made before;
* `dotted` — on the way of a dotted name: only further dotted names.

`Outline.build` answers `none` when a statement is at odds with those before it.
-/

namespace EngineBridge.Toml

/-- How a table was made. -/
inductive Making where
  | explicit
  | implied
  | dotted
deriving DecidableEq, Repr

/-- A part of a document under construction. -/
inductive Outline where
  | value (value : Toml)
  | table (making : Making) (entries : List (String × Outline))
  /-- An array of tables, the last one first. -/
  | tables (elements : List (List (String × Outline)))

inductive Statement where
  | entry (path : List String) (name : String) (value : Toml)
  | table (path : List String) (name : String)
  | element (path : List String) (name : String)

namespace Outline

abbrev Entries := List (String × Outline)

def replace (name : String) (part : Outline) (entries : Entries) : Entries :=
  entries.map fun entry => if entry.1 = name then (name, part) else entry

def without (name : String) (entries : Entries) : Entries :=
  entries.filter fun entry => entry.1 ≠ name

/-- Changes the table at the end of a path of headers; of an array of tables the last
element counts. -/
def underHeaders (change : Entries → Option Entries) : List String → Entries → Option Entries
  | [], entries => change entries
  | name :: path, entries =>
    match entries.lookup name with
    | none => do
      let inner ← underHeaders change path []
      return entries ++ [(name, .table .implied inner)]
    | some (.value _) => none
    | some (.table making inner) => do
      return replace name (.table making (← underHeaders change path inner)) entries
    | some (.tables (last :: before)) => do
      return replace name (.tables ((← underHeaders change path last) :: before)) entries
    | some (.tables []) => none

/-- Adds an entry to a table made in some way, under a dotted name if the path is not empty:
the tables on the way must not have a header, and the last one must be made by dotted
names. -/
def addEntry (name : String) (content : Toml) :
    List String → Making → Entries → Option Entries
  | [], _, entries =>
    match entries.lookup name with
    | none => some (entries ++ [(name, .value content)])
    | some _ => none
  | step :: path, _, entries =>
    let isLast := path.isEmpty
    match entries.lookup step with
    | none => do
      let inner ← addEntry name content path .dotted []
      return entries ++ [(step, .table .dotted inner)]
    | some (.value _) => none
    | some (.table making inner) =>
      if making = .explicit ∨ (isLast ∧ making ≠ .dotted) then none
      else do
        return replace step (.table making (← addEntry name content path making inner)) entries
    | some (.tables (last :: before)) =>
      if isLast then none
      else do
        let last ← addEntry name content path .explicit last
        return replace step (.tables (last :: before)) entries
    | some (.tables []) => none

/-- Opens the table of a header: a new one, or one that was implied so far. -/
def openTable (name : String) (entries : Entries) : Option Entries :=
  match entries.lookup name with
  | none => some (entries ++ [(name, .table .explicit [])])
  | some (.table .implied inner) => some (without name entries ++ [(name, .table .explicit inner)])
  | some _ => none

/-- Opens a further element of an array of tables. -/
def openElement (name : String) (entries : Entries) : Option Entries :=
  match entries.lookup name with
  | none => some (entries ++ [(name, .tables [[]])])
  | some (.tables elements) => some (replace name (.tables ([] :: elements)) entries)
  | some _ => none

/-- A document so far: its tables, and the path of the current one. -/
structure Draft where
  entries : Entries
  current : List String

def Draft.add (draft : Draft) : Statement → Option Draft
  | .entry path name content => do
    return { draft with
      entries := ← underHeaders (addEntry name content path .explicit) draft.current
        draft.entries }
  | .table path name => do
    return ⟨← underHeaders (openTable name) path draft.entries, path ++ [name]⟩
  | .element path name => do
    return ⟨← underHeaders (openElement name) path draft.entries, path ++ [name]⟩

mutual

def toToml : Outline → Toml
  | .value content => content
  | .table _ entries => .table (entriesToToml entries)
  | .tables elements => .array (elementsToToml elements [])

def entriesToToml : List (String × Outline) → List (String × Toml)
  | [] => []
  | (name, part) :: rest => (name, part.toToml) :: entriesToToml rest

/-- The values of elements, which come last one first, in front of those done. -/
def elementsToToml : List (List (String × Outline)) → List Toml → List Toml
  | [], done => done
  | entries :: rest, done => elementsToToml rest (.table (entriesToToml entries) :: done)

end

/-- The table that some entries, all under dotted names, make. -/
def ofEntries (entries : List (List String × String × Toml)) : Option Toml := do
  let made ← entries.foldlM
    (fun made entry => addEntry entry.2.1 entry.2.2 entry.1 .explicit made) []
  return .table (entriesToToml made)

end Outline

end EngineBridge.Toml
