import EngineBridge.Files.Tree
import EngineBridge.Proofs.Basic
import EngineBridge.Proofs.Files.Path
/-!
# Following a path

`next` is what one piece of a path does.  A path that leads somewhere leads through folders only,
and to where its pieces lead one after the other.
-/

namespace EngineBridge.FileTree

variable {tree : FileTree} {cwd place found : FilePlace} {piece name path base : String}
  {pieces : List String}

/-- The place that a piece leads to from a place, whether there is anything or not. -/
def next (place : FilePlace) (piece : String) : FilePlace :=
  if piece = "" ∨ piece = "." then place
  else if piece = ".." then place.dropLast
  else place ++ [piece]

theorem next_idle (idle : piece = "" ∨ piece = ".") : next place piece = place := if_pos idle

theorem next_name (named : ¬ (piece = "" ∨ piece = ".")) (down : piece ≠ "..") :
    next place piece = place ++ [piece] := by
  rw [next, if_neg named, if_neg down]

theorem placesAlong_concat (place : FilePlace) (pieces : List String) (piece : String) :
    placesAlong place (pieces ++ [piece]) =
      placesAlong place pieces ++ [next (pieces.foldl next place) piece] := by
  induction pieces generalizing place with
  | nil => rfl
  | cons first pieces ih =>
    show next place first :: placesAlong (next place first) (pieces ++ [piece]) = _
    rw [ih]
    rfl

/-- What the first piece of a path comes to. -/
theorem follow_cons_ok (leads : tree.follow place (piece :: pieces) = .ok found) :
    tree.entry? place = some .folder ∧ tree.follow (next place piece) pieces = .ok found := by
  rw [follow] at leads
  cases holds : tree.entry? place with
  | none =>
    rw [holds] at leads
    cases leads
  | some entry =>
    rw [holds] at leads
    cases entry with
    | file bytes => cases leads
    | folder =>
      refine ⟨rfl, ?_⟩
      by_cases idle : piece = "" ∨ piece = "."
      · rw [next_idle idle]
        simpa only [if_pos idle] using leads
      · by_cases up : piece = ".."
        · simpa only [next, if_neg idle, if_pos up] using leads
        · rw [next_name idle up]
          simp only [if_neg idle, if_neg up] at leads
          split at leads
          · cases leads
          · split at leads
            · exact leads
            · cases leads

theorem follow_append (tree : FileTree) (place : FilePlace) (before after : List String) :
    tree.follow place (before ++ after) = tree.follow place before >>= (tree.follow · after) := by
  induction before generalizing place with
  | nil => rfl
  | cons piece before ih =>
    rw [List.cons_append, follow, follow]
    repeat' split
    all_goals first | exact ih _ | rfl

/-- What the last piece of a path comes to. -/
theorem follow_concat_ok (leads : tree.follow place (pieces ++ [piece]) = .ok found) :
    ∃ folder, tree.follow place pieces = .ok folder ∧ tree.entry? folder = some .folder ∧
      found = next folder piece := by
  rw [follow_append, bind_ok_iff] at leads
  obtain ⟨folder, before, last⟩ := leads
  obtain ⟨is, ends⟩ := follow_cons_ok last
  exact ⟨folder, before, is, (Except.ok.inj ends).symm⟩

theorem follow_ok (leads : tree.follow place pieces = .ok found) :
    found = pieces.foldl next place := by
  induction pieces generalizing place with
  | nil => exact (Except.ok.inj leads).symm
  | cons piece pieces ih => exact ih (follow_cons_ok leads).2

/-- A piece that names nothing makes no difference before another piece. -/
theorem follow_idle (idle : piece = "" ∨ piece = ".") (some : pieces ≠ []) :
    tree.follow place (piece :: pieces) = tree.follow place pieces := by
  obtain ⟨other, pieces, rfl⟩ := List.exists_cons_of_ne_nil some
  rw [follow, if_pos idle]
  cases holds : tree.entry? place with
  | none => rw [follow, holds]
  | some entry =>
    cases entry with
    | file bytes => rw [follow, holds]
    | folder => rfl

theorem follow_replicate (count : Nat) (some : pieces ≠ []) :
    tree.follow place (List.replicate count "" ++ pieces) = tree.follow place pieces := by
  induction count with
  | zero => rfl
  | succ count ih =>
    rw [List.replicate_succ, List.cons_append, follow_idle (.inl rfl) (by simp [some]), ih]

theorem follow_append_idle (before after : List String) (idle : piece = "" ∨ piece = ".")
    (some : after ≠ []) :
    tree.follow place (before ++ piece :: after) = tree.follow place (before ++ after) := by
  rw [follow_append, follow_append]
  exact congrArg _ (funext fun folder => follow_idle idle some)

/-- A name is found in a folder if there is anything of that name. -/
theorem follow_name (folder : tree.entry? place = some .folder) (named : ¬ (name = "" ∨ name = "."))
    (down : name ≠ "..") (short : name.utf8ByteSize ≤ greatestName) :
    tree.follow place [name] =
      if (tree.entry? (place ++ [name])).isSome then .ok (place ++ [name])
      else .error .notFound := by
  rw [follow, folder]
  simp only [if_neg named, if_neg down, if_neg (Nat.not_lt.2 short)]
  rfl

/-! ## Names seen from a path -/

/-- A name that something in a folder can have. -/
structure IsName (name : String) : Prop where
  noSlash : '/' ∉ name.toList
  noNul : ∀ c ∈ name.toList, c.toNat ≠ 0
  named : ¬ (name = "" ∨ name = ".")
  down : name ≠ ".."
  short : name.utf8ByteSize ≤ greatestName

theorem checkPath_ok_iff : checkPath path = .ok () ↔
    (∀ c ∈ path.toList, c.toNat ≠ 0) ∧ path ≠ "" ∧ path.utf8ByteSize ≤ greatestPath := by
  rw [checkPath]
  by_cases nul : path.toList.any (·.toNat = 0) = true
  · rw [if_pos nul]
    refine iff_of_false nofun fun fine => ?_
    obtain ⟨c, among, is⟩ := List.any_eq_true.1 nul
    exact fine.1 c among (of_decide_eq_true is)
  · rw [if_neg nul]
    have noNul : ∀ c ∈ path.toList, c.toNat ≠ 0 := by simpa using nul
    by_cases none : path = ""
    · rw [if_pos none]
      exact iff_of_false nofun fun fine => fine.2.1 none
    · rw [if_neg none]
      by_cases long : greatestPath < path.utf8ByteSize
      · rw [if_pos long]
        exact iff_of_false nofun fun fine => Nat.not_le.2 long fine.2.2
      · rw [if_neg long]
        exact iff_of_true rfl ⟨noNul, none, Nat.not_lt.1 long⟩

theorem find_eq (checked : checkPath path = .ok ()) :
    tree.find cwd path = tree.follow (startOf cwd path) (Path.pieces path) := by
  rw [find, checked]
  rfl

theorem find_ok_iff : tree.find cwd path = .ok found ↔
    checkPath path = .ok () ∧ tree.follow (startOf cwd path) (Path.pieces path) = .ok found := by
  rw [find, bind_ok_iff]
  constructor
  · rintro ⟨_, checked, leads⟩
    exact ⟨checked, leads⟩
  · rintro ⟨checked, leads⟩
    exact ⟨(), checked, leads⟩

/-- A name seen from a path is looked for where the path leads. -/
theorem find_join (is : IsName name) (noNul : ∀ c ∈ base.toList, c.toNat ≠ 0)
    (fits : (Path.join base name).utf8ByteSize ≤ greatestPath) :
    tree.find cwd (Path.join base name) =
      tree.follow (startOf cwd base) (Path.pieces base ++ [name]) := by
  have checked : checkPath (Path.join base name) = .ok () := by
    obtain ⟨between, slash, join⟩ := Path.join_eq base is.noSlash
    refine checkPath_ok_iff.2 ⟨fun c among => ?_, fun none => ?_, fits⟩
    · rw [join, String.toList_append, String.toList_append, List.mem_append, List.mem_append]
        at among
      rcases among with (inBase | inBetween) | inName
      · exact noNul c inBase
      · rcases slash with rfl | rfl
        · cases inBetween
        · rw [List.mem_singleton.1 inBetween]
          decide
      · exact is.noNul c inName
    · rw [join, String.append_eq_empty_iff] at none
      exact is.named (.inl none.2)
  rw [find_eq checked, startOf, Path.isAbsolute_join base is.noSlash, ← startOf]
  rcases Path.pieces_join base is.noSlash with pieces | ⟨before, ofBase, pieces⟩
  · rw [pieces]
  · rw [pieces, ofBase, List.append_assoc]
    exact (follow_append_idle before [name] (.inl rfl) (List.cons_ne_nil _ _)).symm

/-- A name seen from what a path begins with is looked for where the first pieces lead. -/
theorem find_join_textOf {reversed : List String} (is : IsName name)
    (suffix : reversed <:+ Path.reversedBody path) (noNul : ∀ c ∈ path.toList, c.toNat ≠ 0)
    (fits : (Path.join (Path.textOf (Path.isAbsolute path) reversed) name).utf8ByteSize ≤
      greatestPath) :
    tree.find cwd (Path.join (Path.textOf (Path.isAbsolute path) reversed) name) =
      tree.follow (startOf cwd path) (reversed.reverse ++ [name]) := by
  have whole : ∀ piece ∈ reversed, '/' ∉ piece.toList := fun piece among =>
    Path.noSlash_of_mem_reversedBody (suffix.subset among)
  obtain ⟨count, pieces⟩ := Path.pieces_textOf (Path.isAbsolute path) whole
  obtain ⟨rest, begins⟩ := Path.exists_eq_textOf_append suffix
  have noNulBefore : ∀ c ∈ (Path.textOf (Path.isAbsolute path) reversed).toList, c.toNat ≠ 0 := by
    intro c among
    refine noNul c ?_
    rw [begins, String.toList_append]
    exact List.mem_append_left _ among
  rw [find_join is noNulBefore fits, startOf, Path.isAbsolute_textOf suffix, ← startOf, pieces,
    List.append_assoc, follow_replicate count (by simp)]

/-- Pieces at the end that name nothing make no difference before a name. -/
theorem follow_dropIdle (absolute : Bool) (all : List String) (name : String) :
    tree.follow place ((Path.dropIdle absolute all).reverse ++ [name]) =
      tree.follow place (all.reverse ++ [name]) := by
  induction all with
  | nil => rfl
  | cons piece before ih =>
    rw [Path.dropIdle]
    by_cases idle : Path.isIdle absolute piece before = true
    · rw [if_pos idle, ih, List.reverse_cons, List.append_assoc]
      exact (follow_append_idle before.reverse [name] (Path.eq_idle_of_isIdle idle)
        (List.cons_ne_nil _ _)).symm
    · rw [if_neg idle]

end EngineBridge.FileTree
