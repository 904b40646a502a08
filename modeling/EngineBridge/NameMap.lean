/-!
# Maps sorted by name

A finite map from names is the list of its entries, sorted by name (code point by code
point), each name once.  `insert` keeps that and lets the newer value win; `find?` finds it.
-/

namespace EngineBridge

abbrev NameMap (α : Type) := List (String × α)

namespace NameMap

variable {α : Type}

def Sorted (entries : NameMap α) : Prop :=
  entries.Pairwise fun a b => a.1 < b.1

/-- Puts an entry in its place, replacing one of the same name. -/
def insert (name : String) (value : α) : NameMap α → NameMap α
  | [] => [(name, value)]
  | (other, old) :: rest =>
    if name < other then (name, value) :: (other, old) :: rest
    else if name = other then (name, value) :: rest
    else (other, old) :: insert name value rest

/-- The map of entries in any order; the last of a name wins. -/
def ofList (entries : List (String × α)) : NameMap α :=
  entries.foldl (fun sorted entry => insert entry.1 entry.2 sorted) []

/-- The value under a name. -/
def find? (entries : NameMap α) (name : String) : Option α :=
  List.lookup name entries

/-- The map without a name. -/
def erase (entries : NameMap α) (name : String) : NameMap α :=
  entries.filter fun entry => entry.1 ≠ name

def names (entries : NameMap α) : List String := entries.map (·.1)

end NameMap

end EngineBridge
