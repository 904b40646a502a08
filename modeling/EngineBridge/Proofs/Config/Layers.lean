import EngineBridge.Config.Settings
/-!
# Layers of settings

Which settings can be used (`Usable`), and what several layers make together (`Stacked`): each
setting is that of the highest layer that sets it, path and name of the library come from the
highest layer that sets either, and the search paths are those of all layers in order.

`Stacked.merge`: merging puts one layer on top of others.  `Stacked.usable_iff`: on top of layers
that can be used only the uppermost one can spoil anything, since each setting is a layer's own.
-/

namespace EngineBridge.Settings

variable {settings below above : Settings} {layers : List Settings}

/-! ## Settings that can be used -/

/-- All settings can be used. -/
structure Usable (settings : Settings) : Prop where
  name : settings.libraryName ≠ some ""
  path : settings.libraryPath ≠ some ""
  timeout : ∀ ms, settings.timeout = some ms → 1 ≤ ms
  workers : ∀ count, settings.workerThreads = some count → 1 ≤ count ∧ count ≤ 1024
  filter : ∀ text, settings.filter = some text → ∃ c ∈ text.toList, Text.isBlank c = false

/-- No fault is found exactly in settings that can be used. -/
theorem fault?_eq_none_iff : settings.fault? = none ↔ settings.Usable := by
  have passes {p : Prop} [Decidable p] {fault : SettingFault} {rest : Option SettingFault} :
      (if p then some fault else rest) = none ↔ ¬ p ∧ rest = none := by
    split <;> simp [*]
  have timeout : ¬ settings.timeout = some 0 ↔ ∀ ms, settings.timeout = some ms → 1 ≤ ms := by
    cases settings.timeout <;> simp [Nat.one_le_iff_ne_zero]
  have workers : settings.workerThreads.filter
      (fun count => count = 0 || greatestWorkerCount < count) = none ↔
        ∀ count, settings.workerThreads = some count → 1 ≤ count ∧ count ≤ 1024 := by
    rw [Option.filter_eq_none_iff]
    refine forall₂_congr fun count _ => ?_
    rw [greatestWorkerCount, Bool.or_eq_true, decide_eq_true_iff, decide_eq_true_iff]
    omega
  have filter : ¬ settings.filter.any Text.isAllBlank = true ↔
      ∀ text, settings.filter = some text → ∃ c ∈ text.toList, Text.isBlank c = false := by
    cases settings.filter <;> simp [Text.isAllBlank]
  rw [fault?, passes, passes, passes, timeout]
  constructor
  · rintro ⟨name, path, timeout, rest⟩
    split at rest
    · cases rest
    · rename_i inRange
      exact ⟨name, path, timeout, workers.1 inRange, filter.1 (passes.1 rest).1⟩
  · intro usable
    refine ⟨usable.name, usable.path, usable.timeout, ?_⟩
    rw [workers.2 usable.workers]
    exact passes.2 ⟨filter.2 usable.filter, rfl⟩

/-- **Settings are accepted exactly if they can be used.** -/
theorem validate_ok_iff : settings.validate = .ok () ↔ settings.Usable := by
  rw [← fault?_eq_none_iff, validate]
  cases settings.fault? <;> simp

/-! ## Layers -/

/-- Whether settings say which library to load. -/
def NamesLibrary (settings : Settings) : Prop :=
  settings.libraryPath.isSome ∨ settings.libraryName.isSome

instance (settings : Settings) : Decidable settings.NamesLibrary :=
  inferInstanceAs (Decidable (_ ∨ _))

/-- Settings are what some layers make together, the highest of them first. -/
structure Stacked (layers : List Settings) (settings : Settings) : Prop where
  libraryPath : settings.libraryPath =
    (layers.find? fun layer => layer.NamesLibrary).bind (·.libraryPath)
  libraryName : settings.libraryName =
    (layers.find? fun layer => layer.NamesLibrary).bind (·.libraryName)
  searchPaths : settings.searchPaths = layers.flatMap (·.searchPaths)
  timeout : settings.timeout = layers.findSome? (·.timeout)
  workerThreads : settings.workerThreads = layers.findSome? (·.workerThreads)
  filter : settings.filter = layers.findSome? (·.filter)

section Sections

variable {α β : Type} {merge : α → α → α} {get : α → Option β}

/-- A setting of a section is that of the upper section, or else that of the lower one. -/
theorem bind_mergeSection
    (wins : ∀ lower upper, get (merge lower upper) = (get upper).or (get lower))
    (lower upper : Option α) :
    (mergeSection merge lower upper).bind get = (upper.bind get).or (lower.bind get) := by
  cases lower <;> cases upper <;> simp [mergeSection, wins]

end Sections

theorem timeout_merge : (below.merge above).timeout = above.timeout.or below.timeout :=
  bind_mergeSection (fun _ _ => rfl) below.bridge above.bridge

theorem workerThreads_merge :
    (below.merge above).workerThreads = above.workerThreads.or below.workerThreads :=
  bind_mergeSection (fun _ _ => rfl) below.engine above.engine

theorem filter_merge : (below.merge above).filter = above.filter.or below.filter :=
  bind_mergeSection (fun _ _ => rfl) below.log above.log

theorem searchPaths_merge :
    (below.merge above).searchPaths = above.searchPaths ++ below.searchPaths := by
  cases lower : below.library <;> cases upper : above.library <;>
    simp [merge, mergeSection, searchPaths, LibrarySettings.merge, lower, upper]

theorem library_merge (below above : Settings) :
    ((below.merge above).libraryPath, (below.merge above).libraryName) =
      if above.NamesLibrary then (above.libraryPath, above.libraryName)
      else (below.libraryPath, below.libraryName) := by
  cases upper : above.library with
  | none =>
    cases lower : below.library <;>
      simp [merge, mergeSection, NamesLibrary, libraryPath, libraryName, lower, upper]
  | some theirs =>
    cases lower : below.library with
    | none =>
      simp [merge, mergeSection, NamesLibrary, libraryPath, libraryName, lower, upper]
    | some ours =>
      simp only [merge, mergeSection, LibrarySettings.merge, NamesLibrary, libraryPath, libraryName,
        lower, upper, Option.bind_some]
      split <;> rfl

theorem libraryPath_merge :
    (below.merge above).libraryPath =
      if above.NamesLibrary then above.libraryPath else below.libraryPath := by
  have both := congrArg Prod.fst (library_merge below above)
  rwa [apply_ite Prod.fst] at both

theorem libraryName_merge :
    (below.merge above).libraryName =
      if above.NamesLibrary then above.libraryName else below.libraryName := by
  have both := congrArg Prod.snd (library_merge below above)
  rwa [apply_ite Prod.snd] at both

theorem stacked_nil : Stacked [] .empty := ⟨rfl, rfl, rfl, rfl, rfl, rfl⟩

/-- **Merging puts one layer on top.** -/
theorem Stacked.merge (stacked : Stacked layers below) (above : Settings) :
    Stacked (above :: layers) (below.merge above) := by
  refine ⟨?_, ?_, ?_, ?_, ?_, ?_⟩
  · rw [libraryPath_merge, List.find?_cons]
    by_cases names : above.NamesLibrary <;> simp [names, stacked.libraryPath]
  · rw [libraryName_merge, List.find?_cons]
    by_cases names : above.NamesLibrary <;> simp [names, stacked.libraryName]
  · rw [searchPaths_merge, List.flatMap_cons, stacked.searchPaths]
  · rw [timeout_merge, stacked.timeout, List.findSome?_cons]
    cases above.timeout <;> rfl
  · rw [workerThreads_merge, stacked.workerThreads, List.findSome?_cons]
    cases above.workerThreads <;> rfl
  · rw [filter_merge, stacked.filter, List.findSome?_cons]
    cases above.filter <;> rfl

/-- The library to load is the one that the highest layer names, by its path or else by name. -/
theorem Stacked.libraryTarget (stacked : Stacked layers settings) :
    settings.libraryTarget =
      (layers.find? fun layer => layer.NamesLibrary).bind (·.libraryTarget) := by
  rw [Settings.libraryTarget, stacked.libraryPath, stacked.libraryName]
  cases layers.find? fun layer => layer.NamesLibrary <;> rfl

/-- The same is set, whatever the sections are. -/
structure SetsSame (settings other : Settings) : Prop where
  libraryPath : settings.libraryPath = other.libraryPath
  libraryName : settings.libraryName = other.libraryName
  searchPaths : settings.searchPaths = other.searchPaths
  timeout : settings.timeout = other.timeout
  workerThreads : settings.workerThreads = other.workerThreads
  filter : settings.filter = other.filter

theorem SetsSame.libraryTarget {other : Settings} (same : settings.SetsSame other) :
    settings.libraryTarget = other.libraryTarget := by
  rw [Settings.libraryTarget, Settings.libraryTarget, same.libraryPath, same.libraryName]

theorem SetsSame.logFilter {other : Settings} (same : settings.SetsSame other) :
    settings.logFilter = other.logFilter := by
  rw [Settings.logFilter, Settings.logFilter, same.filter]

/-- What layers make depends on nothing but what the uppermost one sets, and the others. -/
theorem Stacked.setsSame {other otherAbove : Settings} (same : above.SetsSame otherAbove)
    (stacked : Stacked (above :: layers) settings)
    (again : Stacked (otherAbove :: layers) other) : settings.SetsSame other := by
  have names : above.NamesLibrary ↔ otherAbove.NamesLibrary := by
    rw [NamesLibrary, NamesLibrary, same.libraryPath, same.libraryName]
  refine ⟨?_, ?_, ?_, ?_, ?_, ?_⟩
  · rw [stacked.libraryPath, again.libraryPath, List.find?_cons, List.find?_cons]
    by_cases theirs : otherAbove.NamesLibrary <;> simp [names, theirs, same.libraryPath]
  · rw [stacked.libraryName, again.libraryName, List.find?_cons, List.find?_cons]
    by_cases theirs : otherAbove.NamesLibrary <;> simp [names, theirs, same.libraryName]
  · rw [stacked.searchPaths, again.searchPaths, List.flatMap_cons, List.flatMap_cons,
      same.searchPaths]
  · rw [stacked.timeout, again.timeout, List.findSome?_cons, List.findSome?_cons, same.timeout]
  · rw [stacked.workerThreads, again.workerThreads, List.findSome?_cons, List.findSome?_cons,
      same.workerThreads]
  · rw [stacked.filter, again.filter, List.findSome?_cons, List.findSome?_cons, same.filter]

/-- What layers make is usable if they are, as each of its settings is a layer's own. -/
theorem Stacked.usable (stacked : Stacked layers settings)
    (usable : ∀ layer ∈ layers, layer.Usable) : settings.Usable := by
  have named (get : Settings → Option String)
      (is : (layers.find? fun layer => layer.NamesLibrary).bind get = some "") :
      ∃ layer ∈ layers, get layer = some "" := by
    obtain ⟨layer, found, empty⟩ := Option.bind_eq_some_iff.1 is
    exact ⟨layer, List.mem_of_find?_eq_some found, empty⟩
  refine ⟨fun is => ?_, fun is => ?_, fun ms is => ?_, fun count is => ?_, fun text is => ?_⟩
  · obtain ⟨layer, among, empty⟩ := named _ (stacked.libraryName.symm.trans is)
    exact (usable layer among).name empty
  · obtain ⟨layer, among, empty⟩ := named _ (stacked.libraryPath.symm.trans is)
    exact (usable layer among).path empty
  · obtain ⟨layer, among, sets⟩ :=
      List.exists_of_findSome?_eq_some (stacked.timeout.symm.trans is)
    exact (usable layer among).timeout ms sets
  · obtain ⟨layer, among, sets⟩ :=
      List.exists_of_findSome?_eq_some (stacked.workerThreads.symm.trans is)
    exact (usable layer among).workers count sets
  · obtain ⟨layer, among, sets⟩ :=
      List.exists_of_findSome?_eq_some (stacked.filter.symm.trans is)
    exact (usable layer among).filter text sets

/-- Whatever the uppermost layer sets is set. -/
theorem Stacked.top_usable (stacked : Stacked (above :: layers) settings)
    (usable : settings.Usable) : above.Usable := by
  -- nothing lies above it that could hide what it sets
  have wins {α : Type} {get : Settings → Option α} {value : α} (is : get above = some value) :
      (above :: layers).findSome? get = some value := by
    rw [List.findSome?_cons, is]
  have names {get : Settings → Option String} (names : above.NamesLibrary) :
      ((above :: layers).find? fun layer => layer.NamesLibrary).bind get = get above := by
    rw [List.find?_cons_of_pos (by simpa using names), Option.bind_some]
  refine ⟨fun is => usable.name ?_, fun is => usable.path ?_,
    fun ms is => usable.timeout ms (stacked.timeout.trans (wins is)),
    fun count is => usable.workers count (stacked.workerThreads.trans (wins is)),
    fun text is => usable.filter text (stacked.filter.trans (wins is))⟩
  · rw [stacked.libraryName, names (.inr (by simp [is])), is]
  · rw [stacked.libraryPath, names (.inl (by simp [is])), is]

/-- **On top of usable layers only the uppermost one can spoil anything.** -/
theorem Stacked.usable_iff (stacked : Stacked (above :: layers) settings)
    (usable : ∀ layer ∈ layers, layer.Usable) : settings.Usable ↔ above.Usable :=
  ⟨stacked.top_usable, fun top => stacked.usable (List.forall_mem_cons.2 ⟨top, usable⟩)⟩

theorem empty_usable : empty.Usable := stacked_nil.usable nofun

end EngineBridge.Settings
