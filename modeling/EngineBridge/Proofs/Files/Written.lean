import EngineBridge.Proofs.Files.Tree
/-!
# Writing a file

A file that was written is read back as it was written, under the same path, and nothing else in
the tree has changed (`read_written`, `write_elsewhere`).  A file is written where there is
none or another file, so no path through folders is cut off (`Keeps`).
-/

namespace EngineBridge.FileTree

variable {tree after : FileTree} {cwd place other found : FilePlace} {path : String}
  {pieces : List String} {entry : Entry} {bytes : List UInt8}

/-! ## Putting an entry at a place -/

theorem set_holds (below : place ≠ []) :
    FileTree.entry? (tree.set place entry) place = some entry := by
  unfold entry? set
  rw [if_neg below, List.lookup_cons_self]

/-- Entries of other places are found as if those of one place were not there. -/
theorem lookup_filter_ne (entries : List (FilePlace × Entry)) (ne : other ≠ place) :
    (entries.filter fun entry => entry.1 ≠ place).lookup other = entries.lookup other := by
  induction entries with
  | nil => rfl
  | cons first rest ih =>
    obtain ⟨at_, entry⟩ := first
    by_cases same : at_ = place
    · have apart : (other == at_) = false := by simpa [same] using ne
      simp only [List.filter_cons, same, ne_eq, not_true_eq_false, decide_false,
        Bool.false_eq_true, if_false, List.lookup_cons] at apart ih ⊢
      rw [ih, apart]
    · simp only [List.filter_cons, same, ne_eq, not_false_eq_true, decide_true, if_true,
        List.lookup_cons] at ih ⊢
      rw [ih]

theorem set_elsewhere (ne : other ≠ place) :
    FileTree.entry? (tree.set place entry) other = tree.entry? other := by
  have apart : (other == place) = false := by simpa using ne
  unfold entry? set
  simp only [List.lookup_cons, apart]
  rw [lookup_filter_ne tree.entries ne]

/-! ## Paths in a tree that has more in it -/

/-- A tree in which every folder of another one is a folder, and where there is something
wherever there was. -/
structure Keeps (tree after : FileTree) : Prop where
  folder : ∀ place, tree.entry? place = some .folder → after.entry? place = some .folder
  there : ∀ place, (tree.entry? place).isSome → (after.entry? place).isSome

theorem keeps_set (below : place ≠ []) (noFolder : tree.entry? place ≠ some .folder) :
    Keeps tree (tree.set place (.file bytes)) where
  folder := by
    intro other folder
    have ne : other ≠ place := by
      rintro rfl
      exact noFolder folder
    rw [set_elsewhere ne, folder]
  there := by
    intro other there
    by_cases same : other = place
    · rw [same, set_holds below]
      rfl
    · rwa [set_elsewhere same]

theorem Keeps.follow (keeps : Keeps tree after) (leads : tree.follow place pieces = .ok found) :
    after.follow place pieces = .ok found := by
  induction pieces generalizing place with
  | nil => exact leads
  | cons piece pieces ih =>
    obtain ⟨folder, -⟩ := follow_cons_ok leads
    rw [FileTree.follow, folder] at leads
    rw [FileTree.follow, keeps.folder place folder]
    simp only at leads ⊢
    by_cases idle : piece = "" ∨ piece = "."
    · rw [if_pos idle] at leads ⊢
      exact ih leads
    · rw [if_neg idle] at leads ⊢
      by_cases up : piece = ".."
      · rw [if_pos up] at leads ⊢
        exact ih leads
      · rw [if_neg up] at leads ⊢
        by_cases long : greatestName < piece.utf8ByteSize
        · rw [if_pos long] at leads
          cases leads
        · rw [if_neg long] at leads ⊢
          by_cases there : (tree.entry? (place ++ [piece])).isSome
          · rw [if_pos there] at leads
            rw [if_pos (keeps.there _ there)]
            exact ih leads
          · rw [if_neg there] at leads
            cases leads

/-! ## Writing -/

/-- What writing a file at a place in a folder comes to. -/
theorem writeAt_ok {folder : FilePlace} {name : String}
    (written : tree.writeAt folder name bytes = .ok after) :
    tree.entry? folder = some .folder ∧ ¬ (name = "" ∨ name = ".") ∧ name ≠ ".." ∧
      name.utf8ByteSize ≤ greatestName ∧ tree.entry? (folder ++ [name]) ≠ some .folder ∧
      after = tree.set (folder ++ [name]) (.file bytes) := by
  unfold writeAt at written
  cases holds : tree.entry? folder with
  | none => simp [holds] at written
  | some entry =>
    cases entry with
    | file bytes => simp [holds] at written
    | folder =>
      simp only [holds] at written
      by_cases unnamed : name = "" ∨ name = "." ∨ name = ".."
      · simp [unnamed] at written
      · by_cases long : greatestName < name.utf8ByteSize
        · simp [unnamed, long] at written
        · simp only [if_neg unnamed, if_neg long] at written
          rw [not_or, not_or] at unnamed
          refine ⟨rfl, not_or.2 ⟨unnamed.1, unnamed.2.1⟩, unnamed.2.2, Nat.le_of_not_lt long, ?_⟩
          split at written
          · cases written
          · rename_i noFolder
            exact ⟨noFolder, (Except.ok.inj written).symm⟩

/-- A file is written under the last piece of its path, in the folder that the others lead to. -/
theorem write_ok (written : tree.write cwd path bytes = .ok after) :
    ∃ above folder name, checkPath path = .ok () ∧ Path.pieces path = above ++ [name] ∧
      tree.follow (startOf cwd path) above = .ok folder ∧
      tree.writeAt folder name bytes = .ok after := by
  unfold write at written
  rw [bind_ok_iff] at written
  obtain ⟨_, checked, written⟩ := written
  rw [bind_ok_iff] at written
  obtain ⟨folder, leads, written⟩ := written
  obtain ⟨-, named, -⟩ := writeAt_ok written
  by_cases slash : path.endsWith "/" = true
  · rw [if_pos slash] at named
    exact absurd (.inl rfl) named
  · rw [if_neg slash] at named written
    cases reversed : (Path.pieces path).reverse with
    | nil =>
      rw [reversed] at named
      exact absurd (.inl rfl) named
    | cons name above =>
      simp only [reversed, List.headD_cons] at named leads written
      have kept : ((name :: above).dropWhile (· = "")).drop 1 = above := by
        rw [List.dropWhile_cons_of_neg (by simpa using fun none => named (.inl none))]
        rfl
      rw [kept] at leads
      refine ⟨above.reverse, folder, name, checked, ?_, leads, written⟩
      rw [← List.reverse_reverse (Path.pieces path), reversed, List.reverse_cons]

/-- The path of a file that was written leads to it, and it is all that has changed. -/
theorem find_written (written : tree.write cwd path bytes = .ok after) :
    ∃ place, after.find cwd path = .ok place ∧ after.entry? place = some (.file bytes) ∧
      ∀ other, other ≠ place → after.entry? other = tree.entry? other := by
  obtain ⟨above, folder, name, checked, pieces, leads, written⟩ := write_ok written
  obtain ⟨isFolder, named, down, short, noFolder, rfl⟩ := writeAt_ok written
  have below : folder ++ [name] ≠ [] := by simp
  have keeps : Keeps tree (tree.set (folder ++ [name]) (.file bytes)) := keeps_set below noFolder
  have self : FileTree.entry? (tree.set (folder ++ [name]) (.file bytes)) (folder ++ [name]) =
      some (.file bytes) := set_holds below
  refine ⟨folder ++ [name], ?_, self, fun other ne => set_elsewhere ne⟩
  rw [find_ok_iff, pieces, follow_append, keeps.follow leads]
  refine ⟨checked, ?_⟩
  show FileTree.follow _ folder [name] = _
  rw [follow_name (keeps.folder folder isFolder) named down short, self]
  rfl

/-- What was written is read back. -/
theorem read_written (written : tree.write cwd path bytes = .ok after) :
    after.read cwd path = .ok bytes := by
  obtain ⟨place, leads, holds, -⟩ := find_written written
  unfold read
  rw [bind_ok_iff]
  refine ⟨place, leads, ?_⟩
  simp only [holds]
  rfl

/-- What is elsewhere is as it was. -/
theorem write_elsewhere (written : tree.write cwd path bytes = .ok after)
    (elsewhere : after.find cwd path ≠ .ok other) : after.entry? other = tree.entry? other := by
  obtain ⟨place, leads, -, others⟩ := find_written written
  refine others other ?_
  rintro rfl
  exact elsewhere leads

end EngineBridge.FileTree
