import EngineBridge.NameMap
import Mathlib.Data.List.Induction
/-!
# Maps sorted by name are what they say

`ofList` makes a sorted map of any entries (`sorted_ofList`) in which the last entry of a name is
found (`find?_ofList`), and keeps entries that are sorted already (`ofList_of_sorted`); entries of
different names it only puts in order (`ofList_eq_of_perm`).
-/

namespace EngineBridge.NameMap

variable {α β : Type} {entries : NameMap α}

theorem lt_of_not_before {name other : String} (notLess : ¬ name < other) (different : name ≠ other) :
    other < name :=
  Decidable.byContradiction fun notGreater =>
    different (String.le_antisymm notGreater notLess)

theorem mem_insert {name : String} {value : α} {entry : String × α}
    (present : entry ∈ insert name value entries) : entry = (name, value) ∨ entry ∈ entries := by
  induction entries with
  | nil => exact .inl (List.mem_singleton.1 present)
  | cons head rest ih =>
    obtain ⟨other, old⟩ := head
    rw [insert] at present
    split at present
    · exact List.mem_cons.1 present
    · split at present
      · exact (List.mem_cons.1 present).imp_right (List.mem_cons_of_mem _)
      · rcases List.mem_cons.1 present with same | present
        · exact .inr (same ▸ List.mem_cons_self)
        · exact (ih present).imp_right (List.mem_cons_of_mem _)

/-- Putting an entry in its place keeps the order. -/
theorem sorted_insert (name : String) (value : α) (sorted : Sorted entries) :
    Sorted (insert name value entries) := by
  induction entries with
  | nil => exact List.pairwise_singleton _ _
  | cons head rest ih =>
    obtain ⟨other, old⟩ := head
    obtain ⟨before, sortedRest⟩ := List.pairwise_cons.1 sorted
    rw [insert]
    split
    · rename_i less
      refine List.pairwise_cons.2 ⟨fun entry present => ?_, sorted⟩
      rcases List.mem_cons.1 present with rfl | present
      · exact less
      · exact String.lt_trans less (before entry present)
    · rename_i notLess
      split
      · rename_i same
        subst same
        exact List.pairwise_cons.2 ⟨before, sortedRest⟩
      · rename_i different
        refine List.pairwise_cons.2 ⟨fun entry present => ?_, ih sortedRest⟩
        rcases mem_insert present with rfl | present
        · exact lt_of_not_before notLess different
        · exact before entry present

theorem lookup_entry (name other : String) (value : α) (rest : List (String × α)) :
    List.lookup other ((name, value) :: rest) =
      if other = name then some value else List.lookup other rest := by
  rw [List.lookup_cons]
  by_cases same : other = name
  · rw [if_pos same, beq_iff_eq.2 same]
  · rw [if_neg same, beq_eq_false_iff_ne.2 same]

theorem lookup_map (f : α → β) (name : String) (entries : List (String × α)) :
    List.lookup name (entries.map fun entry => (entry.1, f entry.2)) =
      (List.lookup name entries).map f := by
  induction entries with
  | nil => rfl
  | cons head rest ih =>
    obtain ⟨other, value⟩ := head
    rw [List.map_cons, lookup_entry, lookup_entry, ih]
    split <;> rfl

/-- Putting an entry in its place changes what is found under its name only. -/
theorem lookup_insert (name other : String) (value : α) :
    List.lookup other (insert name value entries) =
      if other = name then some value else List.lookup other entries := by
  induction entries with
  | nil => exact lookup_entry name other value []
  | cons head rest ih =>
    obtain ⟨first, old⟩ := head
    rw [insert]
    split
    · exact lookup_entry name other value _
    · split
      · rename_i same
        rw [lookup_entry, lookup_entry, same]
        split <;> rfl
      · rename_i different
        rw [lookup_entry, lookup_entry, ih]
        by_cases same : other = first
        · rw [if_pos same, if_pos same, if_neg (same ▸ Ne.symm different)]
        · rw [if_neg same, if_neg same]

/-- An entry behind all others is put at the end. -/
theorem insert_last {name : String} {value : α} (last : ∀ entry ∈ entries, entry.1 < name) :
    insert name value entries = entries ++ [(name, value)] := by
  induction entries with
  | nil => rfl
  | cons head rest ih =>
    obtain ⟨other, old⟩ := head
    have less : other < name := last _ List.mem_cons_self
    have notLess : ¬ name < other := fun greater => String.lt_irrefl _ (String.lt_trans less greater)
    have different : name ≠ other := fun same => String.lt_irrefl other (same ▸ less)
    rw [insert, if_neg notLess, if_neg different, ih fun entry present =>
      last entry (List.mem_cons_of_mem _ present)]
    rfl

/-- An entry before all others is put in front. -/
theorem insert_first {name : String} {value : α} (first : ∀ entry ∈ entries, name < entry.1) :
    insert name value entries = (name, value) :: entries := by
  cases entries with
  | nil => rfl
  | cons head rest => rw [insert, if_pos (first _ List.mem_cons_self)]

theorem mem_erase {name : String} {entry : String × α} (present : entry ∈ erase entries name) :
    entry ∈ entries :=
  (List.mem_filter.1 present).1

@[simp] theorem erase_cons_self (name : String) (value : α) :
    erase ((name, value) :: entries) name = erase entries name := by
  simp [erase]

theorem erase_cons_ne {name other : String} (value : α) (different : other ≠ name) :
    erase ((other, value) :: entries) name = (other, value) :: erase entries name := by
  simp [erase, different]

theorem erase_insert_self (name : String) (value : α) :
    erase (insert name value entries) name = erase entries name := by
  induction entries with
  | nil => exact erase_cons_self name value
  | cons head rest ih =>
    obtain ⟨other, old⟩ := head
    rw [insert]
    split
    · exact erase_cons_self name value
    · split
      · rename_i same
        subst same
        rw [erase_cons_self, erase_cons_self]
      · rename_i different
        rw [erase_cons_ne old (Ne.symm different), erase_cons_ne old (Ne.symm different), ih]

/-- Taking out a name and putting in another one come to the same in either order. -/
theorem erase_insert_ne {name other : String} (value : α) (different : other ≠ name)
    (sorted : Sorted entries) :
    erase (insert other value entries) name = insert other value (erase entries name) := by
  induction entries with
  | nil => exact erase_cons_ne value different
  | cons head rest ih =>
    obtain ⟨next, old⟩ := head
    obtain ⟨before, sortedRest⟩ := List.pairwise_cons.1 sorted
    rw [insert]
    split
    · rename_i less
      rw [erase_cons_ne value different]
      refine (insert_first fun entry present => ?_).symm
      rcases List.mem_cons.1 (mem_erase present) with rfl | further
      · exact less
      · exact String.lt_trans less (before entry further)
    · split
      · rename_i notLess same
        subst same
        rw [erase_cons_ne value different, erase_cons_ne old different, insert, if_neg notLess,
          if_pos rfl]
      · rename_i notLess notSame
        by_cases erased : next = name
        · subst erased
          rw [erase_cons_self, erase_cons_self, ih sortedRest]
        · rw [erase_cons_ne old erased, erase_cons_ne old erased, insert, if_neg notLess,
            if_neg notSame, ih sortedRest]

/-! ## Maps of entries -/

theorem ofList_append (entries : List (String × α)) (name : String) (value : α) :
    ofList (entries ++ [(name, value)]) = insert name value (ofList entries) := by
  rw [ofList, List.foldl_append]
  rfl

/-- **The entries of a map are in order**, each name once. -/
theorem sorted_ofList (entries : List (String × α)) : Sorted (ofList entries) := by
  induction entries using List.reverseRecOn with
  | nil => exact List.Pairwise.nil
  | append_singleton entries entry ih =>
    obtain ⟨name, value⟩ := entry
    rw [ofList_append]
    exact sorted_insert name value ih

theorem mem_ofList {entry : String × α} (entries : List (String × α))
    (present : entry ∈ ofList entries) : entry ∈ entries := by
  induction entries using List.reverseRecOn with
  | nil => exact present
  | append_singleton entries last ih =>
    obtain ⟨name, value⟩ := last
    rw [ofList_append] at present
    rcases mem_insert present with same | present
    · exact List.mem_append_right _ (List.mem_singleton.2 same)
    · exact List.mem_append_left _ (ih present)

/-- **The last entry of a name is the one found.** -/
theorem find?_ofList (entries : List (String × α)) (name : String) :
    find? (ofList entries) name = List.lookup name entries.reverse := by
  induction entries using List.reverseRecOn with
  | nil => rfl
  | append_singleton entries last ih =>
    obtain ⟨other, value⟩ := last
    rw [find?] at ih ⊢
    rw [ofList_append, lookup_insert, List.reverse_append, ih]
    exact (lookup_entry other name value _).symm

/-- **A map without a name** is that of the entries of all other names. -/
theorem erase_ofList (entries : List (String × α)) (name : String) :
    erase (ofList entries) name = ofList (entries.filter fun entry => entry.1 ≠ name) := by
  induction entries using List.reverseRecOn with
  | nil => rfl
  | append_singleton entries last ih =>
    obtain ⟨other, value⟩ := last
    rw [ofList_append, List.filter_append]
    by_cases same : other = name
    · subst same
      rw [erase_insert_self, ih]
      simp
    · rw [erase_insert_ne value same (sorted_ofList entries), ih]
      simp [same, ofList_append]

/-- **Entries in order are kept.** -/
theorem ofList_of_sorted (entries : List (String × α)) (sorted : Sorted entries) :
    ofList entries = entries := by
  induction entries using List.reverseRecOn with
  | nil => rfl
  | append_singleton entries last ih =>
    obtain ⟨name, value⟩ := last
    obtain ⟨sorted, -, before⟩ := List.pairwise_append.1 sorted
    rw [ofList_append, ih sorted,
      insert_last fun entry present => before entry present _ (List.mem_singleton.2 rfl)]

theorem insert_perm {name : String} {value : α} (new : ∀ entry ∈ entries, name ≠ entry.1) :
    (insert name value entries).Perm ((name, value) :: entries) := by
  induction entries with
  | nil => exact .refl _
  | cons head rest ih =>
    obtain ⟨other, old⟩ := head
    obtain ⟨different, new⟩ := List.forall_mem_cons.1 new
    by_cases less : name < other
    · rw [insert, if_pos less]
    · rw [insert, if_neg less, if_neg different]
      exact ((ih new).cons _).trans (.swap _ _ _)

/-- Entries of different names are only put in order. -/
theorem ofList_perm (entries : List (String × α)) (distinct : (entries.map (·.1)).Nodup) :
    (ofList entries).Perm entries := by
  induction entries using List.reverseRecOn with
  | nil => exact .refl _
  | append_singleton entries last ih =>
    obtain ⟨name, value⟩ := last
    rw [List.map_append, List.nodup_append] at distinct
    obtain ⟨distinct, -, apart⟩ := distinct
    have new : ∀ entry ∈ ofList entries, name ≠ entry.1 := fun entry present same =>
      apart entry.1 (List.mem_map_of_mem (mem_ofList entries present)) name (by simp) same.symm
    rw [ofList_append]
    exact (insert_perm new).trans (((ih distinct).cons _).trans
      (List.perm_append_singleton _ _).symm)

/-- **A map is told by its entries**, in whatever order they come. -/
theorem ofList_eq_of_perm {sorted : NameMap α} (inOrder : Sorted sorted)
    (perm : entries.Perm sorted) : ofList entries = sorted := by
  have ordered : (sorted.map (·.1)).Pairwise (· < ·) := List.pairwise_map.2 inOrder
  have distinct : (entries.map (·.1)).Nodup :=
    (perm.map _).nodup_iff.2 (ordered.imp fun less => String.ne_of_lt less)
  refine ((ofList_perm entries distinct).trans perm).eq_of_pairwise ?_ (sorted_ofList entries)
    inOrder
  exact fun a b _ _ less greater => absurd (String.lt_trans less greater) (String.lt_irrefl _)

theorem sorted_map {f : String × α → String × β} (names : ∀ entry, (f entry).1 = entry.1)
    (sorted : Sorted entries) : Sorted (entries.map f) := by
  refine List.Pairwise.map f (fun a b less => ?_) sorted
  rw [names, names]
  exact less

end EngineBridge.NameMap
