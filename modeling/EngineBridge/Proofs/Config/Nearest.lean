import Mathlib.Data.List.Iterate
import EngineBridge.Proofs.Basic
import EngineBridge.Proofs.Config.Load
import EngineBridge.Proofs.Files.Tree
/-!
# The nearest project file: `find_project_file`

The project's file is looked for along the text of a path: in the folder that the path leads to,
and then in the folders that it leads through, from its end back to where it begins
(`nearest_project_file`).  These are the folders above one another only when no piece of the path
leads up, and they end with the root only when the path is absolute; otherwise a file in a folder
that is not above may be found, and one in a folder above may be missed.
-/

namespace EngineBridge

/-! ## Folders along a path -/

namespace FileTree

variable {tree : FileTree} {cwd place : FilePlace} {path name : String} {reversed : List String}

/-- The folders that a path leads through, from its end back to where it begins. -/
def foldersBack (cwd : FilePlace) (path : String) : List FilePlace :=
  (startOf cwd path :: placesOf cwd path).reverse

/-- A folder and the ones above it, up to one of them. -/
def foldersUp (top place : FilePlace) : List FilePlace :=
  List.iterate List.dropLast place (place.length - top.length + 1)

/-- Where pieces, last one first, lead to from a place. -/
def placeOf (start : FilePlace) (reversed : List String) : FilePlace :=
  reversed.reverse.foldl next start

/-- The folders that pieces, last one first, lead through from a place, and that place. -/
def foldersOf (start : FilePlace) (reversed : List String) : List FilePlace :=
  (start :: placesAlong start reversed.reverse).reverse

theorem placeOf_cons (start : FilePlace) (piece : String) (before : List String) :
    placeOf start (piece :: before) = next (placeOf start before) piece := by
  rw [placeOf, List.reverse_cons, List.foldl_append]
  rfl

theorem foldersOf_cons (start : FilePlace) (piece : String) (before : List String) :
    foldersOf start (piece :: before) =
      placeOf start (piece :: before) :: foldersOf start before := by
  have split := placesAlong_concat start before.reverse piece
  rw [← List.reverse_cons] at split
  rw [foldersOf, split, ← List.cons_append, List.reverse_append, placeOf_cons]
  rfl

/-- The first folder is the one that the pieces lead to. -/
theorem foldersOf_eq_cons (start : FilePlace) (reversed : List String) :
    ∃ others, foldersOf start reversed = placeOf start reversed :: others := by
  cases reversed with
  | nil => exact ⟨[], rfl⟩
  | cons piece before => exact ⟨_, foldersOf_cons start piece before⟩

/-- Looking into the first folder twice makes no difference. -/
theorem find?_foldersOf_again (holds : FilePlace → Bool) (start : FilePlace)
    (reversed : List String) :
    (placeOf start reversed :: foldersOf start reversed).find? holds =
      (foldersOf start reversed).find? holds := by
  obtain ⟨others, is⟩ := foldersOf_eq_cons start reversed
  rw [is]
  cases first : holds (placeOf start reversed) with
  | true => rw [List.find?_cons_of_pos first, List.find?_cons_of_pos first]
  | false => rw [List.find?_cons_of_neg (by simp [first])]

/-- Where an absolute path begins stands twice. -/
theorem find?_foldersBack (holds : FilePlace → Bool) (cwd : FilePlace) (path : String) :
    (foldersBack cwd path).find? holds =
      (foldersOf (startOf cwd path) (Path.reversedBody path)).find? holds := by
  rw [foldersBack, placesOf, Path.pieces_eq, startOf]
  cases Path.isAbsolute path with
  | false => rfl
  | true =>
    show ([] :: [] :: placesAlong [] (Path.reversedBody path).reverse).reverse.find? holds =
      ([] :: placesAlong [] (Path.reversedBody path).reverse).reverse.find? holds
    simp only [List.reverse_cons, List.find?_append, Option.or_assoc, Option.or_self]

theorem foldersUp_concat {top : FilePlace} (longer : top.length ≤ place.length) :
    foldersUp top (place ++ [name]) = (place ++ [name]) :: foldersUp top place := by
  have count : (place ++ [name]).length - top.length + 1 = place.length - top.length + 1 + 1 := by
    rw [List.length_append, List.length_singleton]
    omega
  rw [foldersUp, count]
  show _ :: List.iterate List.dropLast (place ++ [name]).dropLast _ = _
  rw [List.dropLast_concat]
  rfl

/-- Without a piece that leads up, the folders lie above one another. -/
theorem find?_foldersOf_up (holds : FilePlace → Bool) (start : FilePlace)
    (down : ".." ∉ reversed) :
    start.length ≤ (placeOf start reversed).length ∧
      (foldersOf start reversed).find? holds =
        (foldersUp start (placeOf start reversed)).find? holds := by
  induction reversed with
  | nil =>
    refine ⟨Nat.le_refl _, ?_⟩
    show [start].find? holds = (foldersUp start start).find? holds
    rw [foldersUp, Nat.sub_self]
    rfl
  | cons piece before ih =>
    rw [List.mem_cons, not_or] at down
    obtain ⟨longer, same⟩ := ih down.2
    rw [foldersOf_cons, placeOf_cons]
    by_cases idle : piece = "" ∨ piece = "."
    · rw [next_idle idle, find?_foldersOf_again]
      exact ⟨longer, same⟩
    · rw [next_name idle (Ne.symm down.1), List.length_append]
      refine ⟨Nat.le_add_right_of_le longer, ?_⟩
      rw [foldersUp_concat longer, List.find?_cons, List.find?_cons, same]

/-! ## Looking for a file -/

/-- A folder has a regular file of a name. -/
def HasFile (tree : FileTree) (name : String) (folder : FilePlace) : Prop :=
  ∃ bytes, tree.entry? (folder ++ [name]) = some (.file bytes)

/-- Whether a folder has a regular file of a name. -/
def hasFile (tree : FileTree) (name : String) (folder : FilePlace) : Bool :=
  match tree.entry? (folder ++ [name]) with
  | some (.file _) => true
  | _ => false

theorem hasFile_iff {folder : FilePlace} :
    tree.hasFile name folder = true ↔ tree.HasFile name folder := by
  unfold hasFile HasFile
  cases tree.entry? (folder ++ [name]) with
  | none => simp
  | some entry => cases entry <;> simp

/-- A path that leads to a folder and on to a name leads to a file if the folder has one of that
name. -/
theorem isFile_eq (is : IsName name) (folder : tree.entry? place = some .folder)
    (looked : tree.find cwd path = tree.follow place [name]) :
    tree.isFile cwd path = tree.hasFile name place ∧
      (tree.hasFile name place = true → tree.find cwd path = .ok (place ++ [name])) := by
  rw [follow_name folder is.named is.down is.short] at looked
  cases holds : tree.entry? (place ++ [name]) with
  | none =>
    have astray : tree.find cwd path = .error .notFound := by
      rw [looked, holds]
      rfl
    rw [isFile, at?, hasFile, holds, astray]
    exact ⟨rfl, nofun⟩
  | some entry =>
    have leads : tree.find cwd path = .ok (place ++ [name]) := by
      rw [looked, holds]
      rfl
    have same : tree.at? cwd path = tree.entry? (place ++ [name]) := by
      rw [at?, leads]
    refine ⟨?_, fun _ => leads⟩
    rw [isFile, same]
    rfl

/-- What is found in the first of some folders, or else in the others. -/
theorem find?_map_cons {more : List String} {folders : List FilePlace} (is : IsName name)
    (folder : tree.entry? place = some .folder)
    (looked : tree.find cwd path = tree.follow place [name])
    (rest : (more.find? (tree.isFile cwd)).map (tree.find cwd) =
      (folders.find? (tree.hasFile name)).map fun folder => .ok (folder ++ [name])) :
    ((path :: more).find? (tree.isFile cwd)).map (tree.find cwd) =
      ((place :: folders).find? (tree.hasFile name)).map fun folder => .ok (folder ++ [name]) := by
  obtain ⟨same, leads⟩ := isFile_eq is folder looked
  cases holds : tree.hasFile name place with
  | true =>
    rw [List.find?_cons_of_pos (same.trans holds), List.find?_cons_of_pos holds]
    exact congrArg some (leads holds)
  | false =>
    rw [List.find?_cons_of_neg (by simp [same, holds]), List.find?_cons_of_neg (by simp [holds])]
    exact rest

/-- **Along the texts above a path the same files are found as in the folders that the path leads
through.**  `text` is what is looked at first, for the folder that the pieces lead to. -/
theorem find?_parents (is : IsName name) (noNul : ∀ c ∈ path.toList, c.toNat ≠ 0)
    (fits : (Path.join path name).utf8ByteSize ≤ greatestPath) {text : String}
    (suffix : reversed <:+ Path.reversedBody path)
    (leads : tree.follow (startOf cwd path) reversed.reverse = .ok place)
    (folder : tree.entry? place = some .folder)
    (looked : tree.find cwd (Path.join text name) = tree.follow place [name]) :
    (((text :: Path.parentsOf (Path.isAbsolute path) reversed).map (Path.join · name)).find?
        (tree.isFile cwd)).map (tree.find cwd) =
      ((foldersOf (startOf cwd path) reversed).find? (tree.hasFile name)).map
        fun folder => .ok (folder ++ [name]) := by
  induction reversed generalizing text place with
  | nil =>
    obtain rfl := Except.ok.inj leads
    exact find?_map_cons is folder looked rfl
  | cons piece before ih =>
    rw [List.reverse_cons] at leads
    obtain ⟨above, leadsAbove, aboveFolder, next⟩ := follow_concat_ok leads
    have placeIs : placeOf (startOf cwd path) before = above := (follow_ok leadsAbove).symm
    have suffixBefore : before <:+ Path.reversedBody path :=
      (List.suffix_cons piece before).trans suffix
    rw [foldersOf_cons, placeOf_cons, placeIs, ← next, Path.parentsOf]
    -- a piece that names nothing is no step up among the texts, and stays in one folder
    by_cases idle : Path.isIdle (Path.isAbsolute path) piece before = true
    · have stays : place = above := by
        rw [next, next_idle (Path.eq_idle_of_isIdle idle)]
      rw [if_pos idle, stays, ← placeIs, find?_foldersOf_again]
      rw [stays] at looked
      exact ih suffixBefore leadsAbove aboveFolder looked
    · have some : piece ≠ "" := by
        rintro rfl
        exact idle rfl
      have fitsAbove := (Path.size_join_above name is.noSlash suffix some).trans fits
      have lookedAbove : tree.find cwd (Path.join (Path.textOf (Path.isAbsolute path)
          (Path.dropIdle (Path.isAbsolute path) before)) name) = tree.follow above [name] := by
        rw [find_join_textOf is ((Path.dropIdle_suffix _ _).trans suffixBefore) noNul fitsAbove,
          follow_dropIdle, follow_append, leadsAbove]
        rfl
      rw [if_neg idle, List.map_cons]
      refine find?_map_cons is folder looked ?_
      exact ih suffixBefore leadsAbove aboveFolder lookedAbove

end FileTree

/-! ## The project's file -/

theorem isName_projectFileName : FileTree.IsName Surroundings.projectFileName where
  noSlash := by decide
  noNul c among := by
    have all : Surroundings.projectFileName.toList.all (fun c => decide (c.toNat ≠ 0)) = true := by
      decide
    exact of_decide_eq_true (List.all_eq_true.1 all c among)
  named := by decide
  down := by decide
  short := by decide

namespace Surroundings

open FileTree

variable {here : Surroundings} {start : String} {place : FilePlace}
  {folders others : List FilePlace} {found : Option String}

/-- What is found is the project file of the first of some folders that has one, if one has. -/
def FindsFirst (here : Surroundings) (folders : List FilePlace) (found : Option String) : Prop :=
  ∃ folder?, IsFirst folders (here.files.HasFile projectFileName) folder? ∧
    found.map (here.files.find here.cwd) =
      folder?.map fun folder => .ok (folder ++ [projectFileName])

theorem isFirst_hasFile_iff {tree : FileTree} {name : String} {folder? : Option FilePlace} :
    IsFirst folders (tree.HasFile name) folder? ↔ folders.find? (tree.hasFile name) = folder? := by
  have first : IsFirst folders (tree.HasFile name) (folders.find? (tree.hasFile name)) := by
    have same : (fun folder => tree.hasFile name folder = true) = tree.HasFile name :=
      funext fun folder => propext hasFile_iff
    rw [← same]
    exact isFirst_find? _ _
  constructor
  · exact first.unique
  · rintro rfl
    exact first

theorem findsFirst_iff : here.FindsFirst folders found ↔
    found.map (here.files.find here.cwd) =
      (folders.find? (here.files.hasFile projectFileName)).map
        fun folder => .ok (folder ++ [projectFileName]) := by
  rw [FindsFirst]
  simp only [isFirst_hasFile_iff, exists_eq_left']

theorem FindsFirst.congr (same : folders.find? (here.files.hasFile projectFileName) =
    others.find? (here.files.hasFile projectFileName)) :
    here.FindsFirst folders found ↔ here.FindsFirst others found := by
  rw [findsFirst_iff, findsFirst_iff, same]

/-- Two searches that find the same file find it in the same folder. -/
theorem FindsFirst.iff_same (finds : here.FindsFirst folders found) :
    here.FindsFirst others found ↔
      ∃ folder?, IsFirst folders (here.files.HasFile projectFileName) folder? ∧
        IsFirst others (here.files.HasFile projectFileName) folder? := by
  obtain ⟨folder?, first, leads⟩ := finds
  constructor
  · rintro ⟨other?, again, same⟩
    have sameFolder : folder? = other? := by
      refine Option.map_injective (fun folder other is => ?_) (leads.symm.trans same)
      exact List.append_cancel_right (Except.ok.inj is)
    exact ⟨folder?, first, sameFolder ▸ again⟩
  · rintro ⟨other?, again, other⟩
    obtain rfl := again.unique first
    exact ⟨other?, other, leads⟩

theorem follow_body (follows : here.files.follow (startOf here.cwd start) (Path.pieces start) =
    .ok place) :
    here.files.follow (startOf here.cwd start) (Path.reversedBody start).reverse = .ok place := by
  rw [Path.pieces_eq] at follows
  cases absolute : Path.isAbsolute start with
  | false =>
    rw [absolute] at follows
    exact follows
  | true =>
    rw [absolute] at follows
    exact (follow_cons_ok follows).2

/-- The folders that a path leads through are looked into, from its end on. -/
theorem findsFirst_back (leads : here.files.find here.cwd start = .ok place)
    (folder : here.files.entry? place = some .folder)
    (fits : (Path.join start projectFileName).utf8ByteSize ≤ greatestPath) :
    here.FindsFirst (foldersBack here.cwd start) (here.nearestProjectFile start) := by
  obtain ⟨checked, follows⟩ := find_ok_iff.1 leads
  have noNul := (checkPath_ok_iff.1 checked).1
  have looked : here.files.find here.cwd (Path.join start projectFileName) =
      here.files.follow place [projectFileName] := by
    rw [find_join isName_projectFileName noNul fits, follow_append, follows]
    rfl
  rw [findsFirst_iff, find?_foldersBack]
  exact find?_parents isName_projectFileName noNul fits List.suffix_rfl (follow_body follows)
    folder looked

/-- Without a piece that leads up these are the folders above, as far as the path goes. -/
theorem findsFirst_back_iff_up (leads : here.files.find here.cwd start = .ok place)
    (down : ".." ∉ Path.pieces start) :
    here.FindsFirst (foldersBack here.cwd start) found ↔
      here.FindsFirst (foldersUp (startOf here.cwd start) place) found := by
  have placeIs := follow_ok (follow_body (find_ok_iff.1 leads).2)
  have bodyDown : ".." ∉ Path.reversedBody start := by
    intro among
    refine down ?_
    rw [Path.pieces_eq]
    exact List.mem_append_right _ (List.mem_reverse.2 among)
  refine FindsFirst.congr ?_
  rw [find?_foldersBack, (find?_foldersOf_up _ _ bodyDown).2, placeIs]
  rfl

end Surroundings

namespace ConfigLoader

open FileTree

/-- Loading takes the project's settings from a file, as if it had been given, or from none. -/
structure Takes (loader : ConfigLoader) (here : Surroundings) (source : ProjectSource)
    (file : Option String) : Prop where
  asGiven : ∀ path, file = some path → loader.load here source = loader.load here (.file path)
  loaded : ∀ configuration, (loader.load here source).1 = .ok configuration →
    configuration.projectFile = file ∧
      ∃ environment project global, here.environment.settings = .ok environment ∧
        here.Layer project file ∧ here.Layer global configuration.globalFile ∧
        configuration.settings = (global.merge project).merge environment

theorem takes_projectFile? (loader : ConfigLoader) (here : Surroundings) (source : ProjectSource) :
    loader.Takes here source (here.projectFile? source) where
  asGiven path is := by
    unfold load Surroundings.load
    rw [is]
    rfl
  loaded configuration loaded := by
    obtain ⟨environment, project, global, top, above, below, -, rfl⟩ :=
      Surroundings.load_ok_iff.1 loaded
    exact ⟨rfl, environment, project, global, top, above, below, rfl⟩

/-- **The nearest project file is the first along the path**: the first of the folders that the
path leads through that has one, from its end back to where it begins, or none if none has one.
Without a piece that leads up these are the folder and the ones above it, to the root if the path is
absolute and else to the working folder.  It is the nearest file in the folder and the ones above
it, to the root, exactly if both ways come to the same folder first. -/
theorem nearest_project_file (loader : ConfigLoader) (here : Surroundings) (start : String)
    (place : FilePlace) (leads : here.files.find here.cwd start = .ok place)
    (folder : here.files.entry? place = some .folder)
    (fits : (Path.join start Surroundings.projectFileName).utf8ByteSize ≤ greatestPath) :
    loader.Takes here (.nearest start) (here.nearestProjectFile start) ∧
      here.FindsFirst (foldersBack here.cwd start) (here.nearestProjectFile start) ∧
      (".." ∉ Path.pieces start →
        here.FindsFirst (foldersUp (startOf here.cwd start) place)
          (here.nearestProjectFile start)) ∧
      (here.FindsFirst (foldersUp [] place) (here.nearestProjectFile start) ↔
        ∃ folder?,
          IsFirst (foldersBack here.cwd start)
            (here.files.HasFile Surroundings.projectFileName) folder? ∧
          IsFirst (foldersUp [] place)
            (here.files.HasFile Surroundings.projectFileName) folder?) := by
  have back := Surroundings.findsFirst_back leads folder fits
  refine ⟨takes_projectFile? loader here (.nearest start), back, fun down => ?_, back.iff_same⟩
  exact (Surroundings.findsFirst_back_iff_up leads down).1 back

/-- A folder of the file's name, and a project's file above it. -/
def folderOfName : Surroundings where
  files := ⟨[(["a"], .folder), (["a", "conduit.toml"], .folder), (["a", "b"], .folder),
    (["conduit.toml"], .file (Utf8.encode "[log]\nfilter = 'info'\n"))]⟩
  cwd := ["a"]
  environment := ⟨[]⟩
  home := none

theorem nearest_project_file_folderOfName :
    folderOfName.files.find ["a"] "//a/./b/" = .ok ["a", "b"] ∧
      folderOfName.nearestProjectFile "//a/./b/" = some "/conduit.toml" ∧
      folderOfName.FindsFirst [["a", "b"], ["a"], []] (some "/conduit.toml") := by
  have leads : folderOfName.files.find ["a"] "//a/./b/" = .ok ["a", "b"] := by decide +kernel
  have nearest : folderOfName.nearestProjectFile "//a/./b/" = some "/conduit.toml" := by
    decide +kernel
  refine ⟨leads, nearest, ?_⟩
  rw [← nearest]
  exact (nearest_project_file ⟨none⟩ folderOfName "//a/./b/" ["a", "b"] leads (by decide)
    (by decide +kernel)).2.2.1 (by decide)

/-- A project's file in a folder, and none above. -/
def fileBelow : Surroundings where
  files := ⟨[(["a"], .folder), (["a", "conduit.toml"], .file [])]⟩
  cwd := []
  environment := ⟨[]⟩
  home := none

/-- A project's file above the working folder. -/
def fileAbove : Surroundings where
  files := ⟨[(["a"], .folder), (["conduit.toml"], .file [])]⟩
  cwd := ["a"]
  environment := ⟨[]⟩
  home := none

/-- The path `/a/..` leads to the root but finds the file in `a`; and the path `.` finds nothing
above the working folder. -/
theorem nearest_project_file_not_above :
    (fileBelow.files.find [] "/a/.." = .ok [] ∧
        fileBelow.nearestProjectFile "/a/.." = some "/a/conduit.toml" ∧
        ¬ fileBelow.FindsFirst (foldersUp [] []) (fileBelow.nearestProjectFile "/a/..")) ∧
      fileAbove.files.find ["a"] "." = .ok ["a"] ∧
        fileAbove.nearestProjectFile "." = none ∧
        ¬ fileAbove.FindsFirst (foldersUp [] ["a"]) (fileAbove.nearestProjectFile ".") := by
  rw [Surroundings.findsFirst_iff, Surroundings.findsFirst_iff]
  decide +kernel

end ConfigLoader

end EngineBridge
