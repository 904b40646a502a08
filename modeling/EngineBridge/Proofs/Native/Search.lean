import EngineBridge.Command.Info
import EngineBridge.Native.Loading
import EngineBridge.Proofs.Basic
import EngineBridge.Proofs.Config.Load
import EngineBridge.Proofs.Files.Path
/-!
# Where libraries are found: `LibraryLoader::resolve_library_path`

A library that is asked for by a bare name is looked for in the folders that the project's file
names, then in those of the global file, then in the working folder and in those of the system
(`libraries_searched_in_order`).

A library that is asked for by a path is the file at that path, if there is one.  A path that leads
to nothing is looked for like a bare name, though, and so may lead to another file: the path with an
ending, or what lies below a search folder under the whole path (`Detour`).
`paths_taken_as_given_iff` says when that comes to nothing.
-/

namespace EngineBridge

/-! ## The search folders -/

namespace LibrarySearch

variable {search : LibrarySearch} {files : FileTree} {cwd : FilePlace} {name path folder : String}

/-- Folders that are put in front one after the other, the last one first, stand in their order. -/
theorem paths_addAll (search : LibrarySearch) (paths : List String) :
    (search.addAll paths).paths = paths ++ search.paths := by
  unfold addAll
  rw [List.foldl_reverse]
  induction paths with
  | nil => rfl
  | cons path paths ih =>
    show path :: (paths.foldr (fun path search => add search path) search).paths = _
    rw [ih, List.cons_append]

/-- The paths under which a library is looked for in some folders: in each of them the name with
`lib` in front, and then without. -/
def librariesIn (folders : List String) (name : String) : List String :=
  folders.flatMap fun folder =>
    [Path.join folder ("lib" ++ name ++ ".so"), Path.join folder (name ++ ".so")]

theorem candidates_eq : search.candidates name = librariesIn search.paths name := rfl

theorem isPath_bare (relative : Path.isAbsolute name = false)
    (single : Path.componentCount name = 1) : isPath name = false := by
  rw [isPath, relative, single]
  rfl

/-- What is not taken as it is is looked for. -/
theorem resolve_searched (away : files.exists? cwd name = false ∨ isPath name = false) :
    IsFirst (librariesIn search.paths name) (fun path => files.exists? cwd path = true)
      (search.resolve files cwd name) := by
  have notTaken : (isPath name && files.exists? cwd name) = false := by
    rcases away with away | away
    · rw [away, Bool.and_false]
    · rw [away, Bool.false_and]
  rw [resolve, notTaken, if_neg Bool.false_ne_true, candidates_eq]
  exact isFirst_find? _ _

/-- The path of the file that is loaded for a name: the name itself if it is a path that leads to
something, else the first one in some folders. -/
inductive Finds (folders : List String) (files : FileTree) (cwd : FilePlace) (name : String) :
    String → Prop where
  | asGiven (path : isPath name = true) (there : files.exists? cwd name = true) :
    Finds folders files cwd name name
  | searched {path : String} (away : files.exists? cwd name = false ∨ isPath name = false)
    (first : IsFirst (librariesIn folders name) (fun path => files.exists? cwd path = true)
      (some path)) : Finds folders files cwd name path

theorem resolve_eq_some_iff :
    search.resolve files cwd name = some path ↔ Finds search.paths files cwd name path := by
  by_cases taken : isPath name = true ∧ files.exists? cwd name = true
  · have given : search.resolve files cwd name = some name := by
      rw [resolve, taken.1, taken.2]
      rfl
    rw [given, Option.some.injEq]
    constructor
    · rintro rfl
      exact .asGiven taken.1 taken.2
    · intro finds
      cases finds with
      | asGiven => rfl
      | searched away => simp [taken] at away
  · have away : files.exists? cwd name = false ∨ isPath name = false := by
      rw [not_and_or] at taken
      simpa [or_comm] using taken
    have searched : IsFirst _ _ (search.resolve files cwd name) := resolve_searched away
    constructor
    · intro resolved
      exact .searched away (resolved ▸ searched)
    · intro finds
      cases finds with
      | asGiven path there => exact absurd ⟨path, there⟩ taken
      | searched away first => exact searched.unique first

/-- Loading succeeds if the name leads to a file that can be loaded and bound. -/
theorem load_ok_iff {σ : Type} {shelf : LibraryShelf σ} {thread : ThreadId} {config : Option String}
    {s s' : σ} {bound : BoundLibrary σ} :
    search.load files cwd shelf thread name config s = (.ok bound, s') ↔
      ∃ path file, search.resolve files cwd name = some path ∧ shelf path = .ok file ∧
        file.bind thread name config s = (.ok bound, s') := by
  unfold load
  cases search.resolve files cwd name with
  | none => simp
  | some path => cases loadable : shelf path <;> simp [loadable]

theorem bind_ne_notFound {σ : Type} (file : LibraryFile σ) (thread : ThreadId)
    (config : Option String) (s : σ) (asked : String) :
    (file.bind thread name config s).1 ≠ .error (.libraryNotFound asked) := by
  unfold LibraryFile.bind
  split
  · nofun
  · split
    · nofun
    · split
      · nofun
      · split <;> nofun

/-- Loading says that a library is not found exactly if its name leads nowhere. -/
theorem load_notFound_iff {σ : Type} {shelf : LibraryShelf σ} {thread : ThreadId}
    {config : Option String} {s : σ} {asked : String} :
    (search.load files cwd shelf thread name config s).1 = .error (.libraryNotFound asked) ↔
      asked = name ∧ search.resolve files cwd name = none := by
  unfold load
  cases search.resolve files cwd name with
  | none => simp [eq_comm]
  | some path =>
    simp only [reduceCtorEq, and_false, iff_false]
    split
    · nofun
    · exact bind_ne_notFound _ _ _ _ _

end LibrarySearch

/-! ## From the configuration to the file -/

/-- The search paths that are loaded are those of the project's file and then those of the global
file. -/
theorem ConfigLoader.load_searchPaths {loader : ConfigLoader} {here : Surroundings}
    {source : ProjectSource} {configuration : Configuration}
    (loaded : (loader.load here source).1 = .ok configuration) :
    ∃ project global, here.Layer project configuration.projectFile ∧
      here.Layer global configuration.globalFile ∧
      configuration.settings.searchPaths = project.searchPaths ++ global.searchPaths := by
  obtain ⟨environment, project, global, top, above, below, -, rfl⟩ :=
    Surroundings.load_ok_iff.1 loaded
  have noPaths := (Environment.layer_of_settings top).searchPaths
  refine ⟨project, global, above, below, ?_⟩
  show ((global.merge project).merge environment).searchPaths = _
  rw [Settings.searchPaths_merge, Settings.searchPaths_merge, noPaths, List.nil_append]

/-- The folders in which libraries are looked for, when a project's file and a global file name
some. -/
def libraryFolders (project global : Settings) (cwd : FilePlace) : List String :=
  project.searchPaths ++ global.searchPaths ++
    [FileTree.pathOf cwd, "/usr/lib", "/usr/local/lib", "/lib", "/usr/lib64", "/lib64"]

/-- **A bare name leads to the first file of that name**, in the folders of the project, then in
those of the global file, in the working folder and in those of the system; and if it leads to none,
that is what loading says. -/
theorem Configuration.libraries_searched_in_order (loader : ConfigLoader) (here : Surroundings)
    (source : ProjectSource) (configuration : Configuration)
    (loaded : (loader.load here source).1 = .ok configuration) (files : FileTree) (name : String)
    (relative : Path.isAbsolute name = false) (single : Path.componentCount name = 1) :
    ∃ project global, here.Layer project configuration.projectFile ∧
      here.Layer global configuration.globalFile ∧
      IsFirst (LibrarySearch.librariesIn (libraryFolders project global here.cwd) name)
        (fun path => files.exists? here.cwd path = true)
        ((configuration.search here.cwd).resolve files here.cwd name) ∧
      ∀ (σ : Type) (shelf : LibraryShelf σ) (thread : ThreadId) (config : Option String) (s : σ)
        (asked : String),
        ((configuration.search here.cwd).load files here.cwd shelf thread name config s).1 =
            .error (.libraryNotFound asked) ↔
          asked = name ∧
            ∀ path ∈ LibrarySearch.librariesIn (libraryFolders project global here.cwd) name,
              files.exists? here.cwd path = false := by
  obtain ⟨project, global, above, below, paths⟩ := ConfigLoader.load_searchPaths loaded
  have folders : (configuration.search here.cwd).paths =
      libraryFolders project global here.cwd := by
    rw [Configuration.search, LibrarySearch.paths_addAll, paths]
    rfl
  have bare := LibrarySearch.isPath_bare relative single
  have first : IsFirst (LibrarySearch.librariesIn (configuration.search here.cwd).paths name) _
      ((configuration.search here.cwd).resolve files here.cwd name) :=
    LibrarySearch.resolve_searched (.inr bare)
  rw [folders] at first
  refine ⟨project, global, above, below, first, ?_⟩
  intro σ shelf thread config s asked
  rw [LibrarySearch.load_notFound_iff, first.none_iff]
  simp only [Bool.not_eq_true]

/-- A library lies in a folder of the project, in one of the global file and in the working
folder. -/
def manyCopies : Surroundings where
  files := ⟨[(["home"], .file (Utf8.encode "[library]\nsearch_paths = ['/base']\n")),
    (["conduit.toml"], .file (Utf8.encode "[library]\nsearch_paths = ['/over', 'vendor']\n")),
    (["base"], .folder), (["base", "libx.so"], .file []), (["vendor"], .folder),
    (["vendor", "x.so"], .file []), (["libx.so"], .file [])]⟩
  cwd := []
  environment := ⟨[]⟩
  home := none

theorem Configuration.libraries_searched_in_order_manyCopies :
    ∃ configuration project global,
      (ConfigLoader.load ⟨some "/home"⟩ manyCopies (.nearest "/")).1 = .ok configuration ∧
      Path.isAbsolute "x" = false ∧ Path.componentCount "x" = 1 ∧
      (configuration.search []).resolve manyCopies.files [] "x" = some "vendor/x.so" ∧
      IsFirst (LibrarySearch.librariesIn (libraryFolders project global []) "x")
        (fun path => manyCopies.files.exists? [] path = true) (some "vendor/x.so") := by
  have shown : (ConfigLoader.load ⟨some "/home"⟩ manyCopies (.nearest "/")).1.toOption.any
      (fun configuration => (configuration.search []).resolve manyCopies.files [] "x" =
        some "vendor/x.so") = true := by
    decide +kernel
  cases loaded : (ConfigLoader.load ⟨some "/home"⟩ manyCopies (.nearest "/")).1 with
  | error error =>
    rw [loaded] at shown
    cases shown
  | ok configuration =>
    rw [loaded] at shown
    have found := of_decide_eq_true shown
    have relative : Path.isAbsolute "x" = false := by decide
    have single : Path.componentCount "x" = 1 := by decide
    obtain ⟨project, global, -, -, first, -⟩ := Configuration.libraries_searched_in_order
      ⟨some "/home"⟩ manyCopies (.nearest "/") configuration loaded manyCopies.files "x" relative
      single
    refine ⟨configuration, project, global, rfl, relative, single, found, ?_⟩
    rw [← found]
    exact first

/-! ## Paths -/

namespace LibrarySearch

variable {search : LibrarySearch} {files : FileTree} {cwd : FilePlace} {name path folder : String}

/-- Where a name may lead without being taken as it is. -/
inductive Detour (search : LibrarySearch) (name : String) : String → Prop where
  /-- Below a search folder, under the whole name with `lib` in front, even one of many pieces. -/
  | prefixed {folder : String} (among : folder ∈ search.paths) :
    Detour search name (Path.join folder ("lib" ++ name ++ ".so"))
  /-- Below a search folder, under the name with an ending. -/
  | below {folder : String} (among : folder ∈ search.paths)
    (relative : Path.isAbsolute name = false) :
    Detour search name (Path.join folder (name ++ ".so"))
  /-- The name with an ending, in no search folder at all. -/
  | beside {folder : String} (among : folder ∈ search.paths)
    (absolute : Path.isAbsolute name = true) : Detour search name (name ++ ".so")

theorem join_absolute (absolute : Path.isAbsolute name = true) :
    Path.join folder (name ++ ".so") = name ++ ".so" := by
  rw [Path.join, if_pos]
  rw [Path.isAbsolute_append (by decide), absolute]

theorem mem_librariesIn_iff : path ∈ librariesIn search.paths name ↔ Detour search name path := by
  simp only [librariesIn, List.mem_flatMap, List.mem_cons, List.not_mem_nil, or_false]
  constructor
  · rintro ⟨folder, among, rfl | rfl⟩
    · exact .prefixed among
    · cases absolute : Path.isAbsolute name with
      | true =>
        rw [join_absolute absolute]
        exact .beside among absolute
      | false => exact .below among absolute
  · intro detour
    cases detour with
    | prefixed among => exact ⟨_, among, .inl rfl⟩
    | below among relative => exact ⟨_, among, .inr rfl⟩
    | beside among absolute => exact ⟨_, among, .inr (join_absolute absolute).symm⟩

/-- A detour leads to another file, as its path is longer. -/
theorem Detour.ne (detour : Detour search name path) : path ≠ name := by
  have extended : (name ++ ".so").length = name.length + 3 := String.length_append _ _
  have longer : name.length < path.length := by
    cases detour with
    | prefixed among =>
      refine Nat.lt_of_lt_of_le ?_ (Path.length_le_join _ _)
      rw [String.length_append, String.length_append]
      show name.length < 3 + name.length + 3
      omega
    | below among relative =>
      refine Nat.lt_of_lt_of_le ?_ (Path.length_le_join _ _)
      omega
    | beside among absolute => omega
  rintro rfl
  exact Nat.lt_irrefl _ longer

theorem resolve_taken (there : files.exists? cwd name = true) (is : isPath name = true) :
    search.resolve files cwd name = some name := by
  rw [resolve, there, is]
  rfl

theorem detour_of_resolve (away : files.exists? cwd name = false ∨ isPath name = false)
    (found : search.resolve files cwd name = some path) :
    Detour search name path ∧ files.exists? cwd path = true := by
  obtain ⟨before, after, split, there, -⟩ := ((resolve_searched away).some_iff path).1 found
  refine ⟨mem_librariesIn_iff.1 ?_, there⟩
  rw [split]
  exact List.mem_append_right _ List.mem_cons_self

/-- **A name is taken as given exactly if there is something and the name is a path, or if there is
nothing, nor on any detour.**  Whatever else it leads to lies on a detour. -/
theorem paths_taken_as_given_iff (search : LibrarySearch) (files : FileTree) (cwd : FilePlace)
    (name : String) :
    (search.resolve files cwd name = (if files.exists? cwd name then some name else none) ↔
        if files.exists? cwd name then isPath name = true
        else ∀ path, Detour search name path → files.exists? cwd path = false) ∧
      ∀ path, search.resolve files cwd name = some path → path ≠ name →
        Detour search name path ∧ files.exists? cwd path = true ∧
          (files.exists? cwd name = true → isPath name = false) := by
  refine ⟨?_, ?_⟩
  · cases there : files.exists? cwd name with
    | true =>
      rw [if_pos rfl, if_pos rfl]
      constructor
      · intro taken
        by_contra noPath
        have detour := detour_of_resolve (.inr (by simpa using noPath)) taken
        exact detour.1.ne rfl
      · exact resolve_taken there
    | false =>
      rw [if_neg Bool.false_ne_true, if_neg Bool.false_ne_true,
        (resolve_searched (.inl there)).none_iff]
      simp only [mem_librariesIn_iff, Bool.not_eq_true]
  · intro path found other
    have away : files.exists? cwd name = false ∨ isPath name = false := by
      by_contra both
      rw [not_or, Bool.not_eq_false, Bool.not_eq_false] at both
      rw [resolve_taken both.1 both.2] at found
      exact other (Option.some.inj found).symm
    obtain ⟨detour, there⟩ := detour_of_resolve away found
    refine ⟨detour, there, fun given => ?_⟩
    exact away.resolve_left (by rw [given]; exact Bool.noConfusion)

/-- A path that leads to nothing is answered with the file beside it that has an ending. -/
theorem path_not_taken_as_given :
    (LibrarySearch.fromFolder ["w"]).resolve ⟨[(["engine.so"], .file [])]⟩ ["w"] "/engine" =
        some "/engine.so" ∧
      (⟨[(["engine.so"], .file [])]⟩ : FileTree).exists? ["w"] "/engine" = false := by
  decide +kernel

end LibrarySearch

end EngineBridge
