import EngineBridge.Proofs.Config.Layers
import Mathlib.Data.List.Induction
/-!
# Merging settings: `ConduitConfig::merge`

Merging is associative and has the empty settings for its unit, so it does not matter in which
groups layers are put on one another: what they make is told by their order alone
(`stacked_foldl_merge`).  It keeps settings that can be used (`Usable.merge`).  `merging_layers` is
the whole law.
-/

namespace EngineBridge

/-! ## Sections -/

section Sections

variable {α : Type} {merge : α → α → α}

@[simp] theorem mergeSection_none_below (above : Option α) : mergeSection merge none above = above := by
  cases above <;> rfl

@[simp] theorem mergeSection_none_above (below : Option α) : mergeSection merge below none = below := by
  cases below <;> rfl

theorem mergeSection_assoc (assoc : ∀ a b c, merge (merge a b) c = merge a (merge b c))
    (a b c : Option α) :
    mergeSection merge (mergeSection merge a b) c =
      mergeSection merge a (mergeSection merge b c) := by
  cases a with
  | none => simp
  | some a =>
    cases b with
    | none => simp
    | some b =>
      cases c with
      | none => simp
      | some c => simp only [mergeSection, assoc]

end Sections

/-- Path and name move together: the uppermost layer that sets either gives both. -/
theorem LibrarySettings.merge_assoc (a b c : LibrarySettings) :
    (a.merge b).merge c = a.merge (b.merge c) := by
  unfold LibrarySettings.merge
  by_cases top : c.path.isSome ∨ c.name.isSome
  · simp [top]
  · by_cases middle : b.path.isSome ∨ b.name.isSome
    · simp [top, middle]
    · simp [top, middle]

theorem BridgeSettings.merge_assoc (a b c : BridgeSettings) :
    (a.merge b).merge c = a.merge (b.merge c) := by
  simp only [BridgeSettings.merge, Option.or_assoc]

theorem EngineSettings.merge_assoc (a b c : EngineSettings) :
    (a.merge b).merge c = a.merge (b.merge c) := by
  simp only [EngineSettings.merge, Option.or_assoc]

theorem LogSettings.merge_assoc (a b c : LogSettings) :
    (a.merge b).merge c = a.merge (b.merge c) := by
  simp only [LogSettings.merge, Option.or_assoc]

namespace Settings

variable {below above : Settings}

/-! ## Whole settings -/

@[simp] theorem empty_merge (above : Settings) : empty.merge above = above := by
  simp [merge, empty]

@[simp] theorem merge_empty (below : Settings) : below.merge empty = below := by
  simp [merge, empty]

theorem merge_assoc (a b c : Settings) : (a.merge b).merge c = a.merge (b.merge c) := by
  simp only [merge, mergeSection_assoc LibrarySettings.merge_assoc,
    mergeSection_assoc BridgeSettings.merge_assoc, mergeSection_assoc EngineSettings.merge_assoc,
    mergeSection_assoc LogSettings.merge_assoc]

theorem stacked_singleton (settings : Settings) : Stacked [settings] settings := by
  have stacked := stacked_nil.merge settings
  rwa [empty_merge] at stacked

theorem Usable.merge (lower : below.Usable) (upper : above.Usable) : (below.merge above).Usable := by
  apply ((stacked_singleton below).merge above).usable
  intro layer among
  rcases List.mem_cons.1 among with rfl | among
  · exact upper
  · exact List.mem_singleton.1 among ▸ lower

/-- **Layers that are merged one after the other** make what they make together, the last of them
on top. -/
theorem stacked_foldl_merge (layers : List Settings) :
    Stacked layers.reverse (layers.foldl Settings.merge empty) := by
  induction layers using List.reverseRecOn with
  | nil => exact stacked_nil
  | append_singleton layers top ih =>
    rw [List.foldl_append, List.reverse_append]
    exact ih.merge top

/-- **Merging puts layers on one another**: in any groups, with nothing set making no difference,
and without spoiling what can be used.  Of layers that are merged in order each setting is that of
the last one that sets it, path and name of the library are those of the last one that sets either,
and the search paths are those of all of them, from the last to the first. -/
theorem merging_layers (a b c : Settings) (layers : List Settings) :
    (a.merge b).merge c = a.merge (b.merge c) ∧
      empty.merge a = a ∧ a.merge empty = a ∧
      (a.validate = .ok () → b.validate = .ok () → (a.merge b).validate = .ok ()) ∧
      Stacked layers.reverse (layers.foldl Settings.merge empty) ∧
      ((∀ layer ∈ layers, layer.validate = .ok ()) →
        (layers.foldl Settings.merge empty).validate = .ok ()) := by
  refine ⟨merge_assoc a b c, empty_merge a, merge_empty a, ?_, stacked_foldl_merge layers, ?_⟩
  · intro lower upper
    rw [validate_ok_iff] at lower upper ⊢
    exact lower.merge upper
  · intro usable
    rw [validate_ok_iff]
    apply (stacked_foldl_merge layers).usable
    intro layer among
    exact validate_ok_iff.1 (usable layer (List.mem_reverse.1 among))

/-- A name and a deadline; a path and a deadline; a filter and further search paths. -/
def threeLayers : List Settings :=
  [⟨some ⟨none, some "base", ["/base"]⟩, some ⟨some 1000⟩, none, none⟩,
    ⟨some ⟨some "./libover.so", none, ["/over"]⟩, none, some ⟨some 2⟩, none⟩,
    ⟨some ⟨none, none, ["/top", "/far"]⟩, some ⟨none⟩, none, some ⟨some "info"⟩⟩]

/-- The path of the second layer puts the name of the first one aside. -/
theorem merging_layers_threeLayers :
    (∀ layer ∈ threeLayers, layer.validate = .ok ()) ∧
      threeLayers.foldl Settings.merge empty =
        ⟨some ⟨some "./libover.so", none, ["/top", "/far", "/over", "/base"]⟩, some ⟨some 1000⟩,
          some ⟨some 2⟩, some ⟨some "info"⟩⟩ ∧
      (threeLayers.foldl Settings.merge empty).validate = .ok () ∧
      (threeLayers[0].merge threeLayers[1]).validate = .ok () := by
  have usable : ∀ layer ∈ threeLayers, layer.validate = .ok () := by decide +kernel
  have law := merging_layers threeLayers[0] threeLayers[1] threeLayers[2] threeLayers
  exact ⟨usable, by decide +kernel, law.2.2.2.2.2 usable,
    law.2.2.2.1 (usable _ (by simp [threeLayers])) (usable _ (by simp [threeLayers]))⟩

end Settings

end EngineBridge
