/-!
# Results, runs and searches

When steps one after the other succeed, and which failure they end in; what a run of steps keeps,
because each of them does; and what looking along a list comes to: the first item that has a
property, or nothing when none has it.
-/

namespace EngineBridge

universe u

variable {α β : Type u} {ε : Type} {step : Except ε α} {next : α → Except ε β}

theorem bind_ok_iff {value : β} :
    step >>= next = .ok value ↔ ∃ first, step = .ok first ∧ next first = .ok value := by
  cases step with
  | error error => simp [bind, Except.bind]
  | ok first => simp [bind, Except.bind]

/-- The first step fails, or it succeeds and the second fails. -/
theorem bind_error_iff {error : ε} :
    step >>= next = .error error ↔
      step = .error error ∨ ∃ first, step = .ok first ∧ next first = .error error := by
  cases step with
  | error error => simp [bind, Except.bind]
  | ok first => simp [bind, Except.bind]

section Renaming

variable {ε' : Type} {rename : ε → ε'}

@[simp] theorem mapError_ok (value : α) : (Except.ok value).mapError rename = .ok value := rfl

@[simp] theorem mapError_error (error : ε) :
    (Except.error error : Except ε α).mapError rename = .error (rename error) := rfl

/-- Giving a failure another name makes no success. -/
theorem mapError_ok_iff {value : α} : step.mapError rename = .ok value ↔ step = .ok value := by
  cases step <;> simp

end Renaming

theorem toOption_eq_some_iff {value : α} : step.toOption = some value ↔ step = .ok value := by
  cases step <;> simp [Except.toOption]

section Runs

variable {μ ρ state : Type u} {take : μ → state → Except ε (ρ × state)}
  {run : List μ → state → Except ε (List ρ × state)}

/-- A run takes its moves one after the other, up to the first that fails. -/
structure IsRun (take : μ → state → Except ε (ρ × state))
    (run : List μ → state → Except ε (List ρ × state)) : Prop where
  nil (s : state) : run [] s = .ok ([], s)
  cons (move : μ) (moves : List μ) (s : state) : run (move :: moves) s = do
    let (reply, next) ← take move s
    let (replies, last) ← run moves next
    return (reply :: replies, last)

theorem IsRun.cons_ok (isRun : IsRun take run) {move : μ} {moves : List μ} {s last : state}
    {replies : List ρ} (ran : run (move :: moves) s = .ok (replies, last)) :
    ∃ reply next replies', take move s = .ok (reply, next) ∧
      run moves next = .ok (replies', last) ∧ replies = reply :: replies' := by
  rw [isRun.cons] at ran
  obtain ⟨⟨reply, next⟩, taken, rest⟩ := bind_ok_iff.1 ran
  obtain ⟨⟨replies', last'⟩, ran', returned⟩ := bind_ok_iff.1 rest
  cases returned
  exact ⟨reply, next, replies', taken, ran', rfl⟩

/-- What every allowed move keeps, a run of them keeps. -/
theorem IsRun.keeps (isRun : IsRun take run) {P : state → Prop} {allowed : μ → Prop}
    (keeps : ∀ {s s' : state} {move : μ} {reply : ρ}, P s → allowed move →
      take move s = .ok (reply, s') → P s') {moves : List μ} :
    ∀ {s last : state} {replies : List ρ}, P s → (∀ move ∈ moves, allowed move) →
      run moves s = .ok (replies, last) → P last := by
  induction moves with
  | nil =>
    intro s last replies h _ ran
    simp only [isRun.nil, Except.ok.injEq, Prod.mk.injEq] at ran
    exact ran.2 ▸ h
  | cons move moves ih =>
    intro s last replies h all ran
    obtain ⟨reply, next, replies', taken, ran', -⟩ := isRun.cons_ok ran
    exact ih (keeps h (all move List.mem_cons_self) taken)
      (fun later member => all later (List.mem_cons_of_mem _ member)) ran'

end Runs

end EngineBridge

/-! ## The first of some things -/

namespace EngineBridge

variable {α : Type} {items : List α} {P : α → Prop} {found other : Option α}

/-- The first item that has a property, if one has it. -/
structure IsFirst (items : List α) (P : α → Prop) (found : Option α) : Prop where
  some_iff : ∀ item, found = some item ↔
    ∃ before after, items = before ++ item :: after ∧ P item ∧ ∀ earlier ∈ before, ¬ P earlier
  none_iff : found = none ↔ ∀ item ∈ items, ¬ P item

theorem isFirst_find? (items : List α) (p : α → Bool) :
    IsFirst items (fun item => p item = true) (items.find? p) where
  some_iff item := by
    rw [List.find?_eq_some_iff_append]
    constructor
    · rintro ⟨has, before, after, split, hasNot⟩
      exact ⟨before, after, split, has, by simpa using hasNot⟩
    · rintro ⟨before, after, split, has, hasNot⟩
      exact ⟨has, before, after, split, by simpa using hasNot⟩
  none_iff := List.find?_eq_none

theorem IsFirst.unique (h : IsFirst items P found) (again : IsFirst items P other) :
    found = other := by
  cases found with
  | none => exact (again.none_iff.2 (h.none_iff.1 rfl)).symm
  | some item => exact ((again.some_iff item).2 ((h.some_iff item).1 rfl)).symm

end EngineBridge
