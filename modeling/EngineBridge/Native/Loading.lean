import EngineBridge.Engine.Dispatch
import EngineBridge.Files.Tree
import EngineBridge.Native.Library
/-!
# Finding and loading an engine library: `LibraryLoader`

A library is asked for by a name or by a path.  A path (one that is absolute or has more than
one piece) is taken as it is when it leads to something; everything else is looked for in
the search paths, in order, and in each of them as `lib` name `.so` and then as name `.so`.

A library file exports symbols.  Five are required; of the others, one makes an engine with
a configuration and one frees it.  Binding a library looks the required symbols up in a
fixed order, and only when all are there makes the engine.  A library that makes none is
used without an engine of its own.
-/

/-! ## Where a library is -/

namespace EngineBridge

/-- `default_search_paths` without the working folder. -/
def systemLibraryFolders : List String :=
  ["/usr/lib", "/usr/local/lib", "/lib", "/usr/lib64", "/lib64"]

structure LibrarySearch where
  paths : List String
deriving DecidableEq, Repr

namespace LibrarySearch

/-- `LibraryLoader::new`: looks in the working folder and in those of the system. -/
def fromFolder (cwd : FilePlace) : LibrarySearch :=
  ⟨FileTree.pathOf cwd :: systemLibraryFolders⟩

/-- `LibraryLoader::add_search_path`: looks in one more folder first. -/
def add (search : LibrarySearch) (path : String) : LibrarySearch := ⟨path :: search.paths⟩

/-- Looks in more folders first, in order: the last one is put in front first. -/
def addAll (search : LibrarySearch) (paths : List String) : LibrarySearch :=
  paths.reverse.foldl add search

def fileNames (name : String) : List String := ["lib" ++ name ++ ".so", name ++ ".so"]

/-- The paths under which a library is looked for, in order. -/
def candidates (search : LibrarySearch) (name : String) : List String :=
  search.paths.flatMap fun folder => (fileNames name).map (Path.join folder)

/-- Whether a name is a path, to be taken as it is. -/
def isPath (name : String) : Bool := Path.isAbsolute name || 1 < Path.componentCount name

/-- `LibraryLoader::resolve_library_path`. -/
def resolve (search : LibrarySearch) (files : FileTree) (cwd : FilePlace) (name : String) :
    Option String :=
  if isPath name && files.exists? cwd name then some name
  else (search.candidates name).find? (files.exists? cwd)

end LibrarySearch

/-! ## Binding -/

def executeSymbol : String := "conduit_execute"

def decodeSymbol : String := "conduit_decode"

def encodeSymbol : String := "conduit_encode"

def releaseSymbol : String := "conduit_release_buffer"

def lastErrorSymbol : String := "conduit_take_last_error"

def newSymbol : String := "conduit_engine_new"

def freeSymbol : String := "conduit_engine_free"

/-- The symbols that every library must have, in the order in which they are looked up. -/
def requiredSymbols : List String :=
  [executeSymbol, decodeSymbol, encodeSymbol, releaseSymbol, lastErrorSymbol]

/-- A library file that can be loaded: its symbols, its functions, and what making an engine
does, which answers the engine's address or that none was made. -/
structure LibraryFile (σ : Type) where
  symbols : List String
  functions : NativeLibrary σ
  makeEngine : ThreadId → CText → σ → Option Nat × σ

structure BoundLibrary (σ : Type) where
  functions : NativeLibrary σ
  engine : EngineHandle

/-- The library files that can be loaded, by their paths; others are refused for a reason. -/
abbrev LibraryShelf (σ : Type) := String → Except String (LibraryFile σ)

namespace LibraryFile

variable {σ : Type}

/-- The first required symbol that is not there. -/
def missingSymbol? (file : LibraryFile σ) : Option String :=
  requiredSymbols.find? fun symbol => !file.symbols.contains symbol

/-- `bind`: looks the symbols of a library up, and makes its engine with a configuration. -/
def bind (file : LibraryFile σ) (thread : ThreadId) (name : String) (config : Option String)
    (s : σ) : Except LoadError (BoundLibrary σ) × σ :=
  match file.missingSymbol? with
  | some symbol => (.error (.symbolNotFound name symbol), s)
  | none =>
    let canFree := file.symbols.contains freeSymbol
    if !file.symbols.contains newSymbol then (.ok ⟨file.functions, none, canFree⟩, s)
    else
      match toCText (config.getD EngineConfig.emptyText) with
      | .error error => (.error (.invalidConfig error.message), s)
      | .ok config =>
        match file.makeEngine thread config s with
        | (none, s) => (.error (.engineInit name), s)
        | (some address, s) => (.ok ⟨file.functions, some address, canFree⟩, s)

end LibraryFile

/-- `LibraryLoader::load`: finds, loads and binds a library that is asked for by a name or a path.
-/
def LibrarySearch.load {σ : Type} (search : LibrarySearch) (files : FileTree) (cwd : FilePlace)
    (shelf : LibraryShelf σ) (thread : ThreadId) (name : String) (config : Option String)
    (s : σ) : Except LoadError (BoundLibrary σ) × σ :=
  match search.resolve files cwd name with
  | none => (.error (.libraryNotFound name), s)
  | some path =>
    match shelf path with
    | .error reason => (.error (.loadFailed path reason), s)
    | .ok file => file.bind thread name config s

end EngineBridge
