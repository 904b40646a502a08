import EngineBridge.Command.Run
/-!
# Steps in a row

What a command that is made of steps comes to.  Looking at things does nothing (`Sees`), printing
does not stop, and a file that cannot be written is not touched; so a command that does all its
looking first is `AllOrNothing`: if it stops, nothing is printed and no file has changed.

A command that waits for ever (`Stands`) does so in the first of its looks that does.
-/

namespace EngineBridge.Command.Step

variable {α β : Type}

/-! ## Results of steps -/

/-- The next step is taken from where the first one has led, unless that stopped. -/
theorem take_bind (step : Step α) (next : α → Step β) (done : Progress) :
    (step >>= next).take done =
      match step.take done with
      | (.ok value, done) => (next value).take done
      | (.error stop, done) => (.error stop, done) := by
  show (match step.take done with
    | (result, done) => Step.take (ExceptT.mk (ExceptT.bindCont next result)) done) = _
  rcases step.take done with ⟨stop | value, done⟩
  · rfl
  · rfl

@[simp] theorem take_print (bytes : List UInt8) (done : Progress) :
    (print bytes).take done = (.ok (), { done with output := done.output ++ bytes }) := rfl

theorem take_save (cwd : FilePlace) (path : String) (bytes : List UInt8) (done : Progress) :
    (save cwd path bytes).take done =
      match done.files.write cwd path bytes with
      | .ok files => (.ok (), { done with files := files })
      | .error error => (stopWith ("Failed to write " ++ path) error.message, done) := by
  unfold save
  rw [take_bind]
  show Step.take (match done.files.write cwd path bytes with
    | .ok files => modify fun done => { done with files := files }
    | .error error => liftM (stopWith ("Failed to write " ++ path) error.message)) done = _
  cases done.files.write cwd path bytes with
  | ok files => rfl
  | error error => rfl

/-! ## Looking first -/

/-- A step that does nothing, and whose result is what is seen. -/
def Sees (step : Step α) (seen : Progress → Except Stop α) : Prop :=
  ∀ done, step.take done = (seen done, done)

theorem look_sees (session : Session) (at_ : Session → Except Stop α) :
    (session.look at_).Sees fun done => at_ (session.now done) := fun _ => rfl

theorem lift_sees (result : Except Stop α) : (liftM result : Step α).Sees fun _ => result :=
  fun _ => rfl

/-- A step that has done nothing if it stops. -/
def AllOrNothing (step : Step α) : Prop :=
  ∀ done stop done', step.take done = (.error stop, done') → done' = done

section Sees

variable {step : Step α} {seen : Progress → Except Stop α} {next : α → Step β}
  {done done' : Progress} {value : β}

theorem Sees.bind_ok_iff (sees : step.Sees seen) :
    (step >>= next).take done = (.ok value, done') ↔
      ∃ first, seen done = .ok first ∧ (next first).take done = (.ok value, done') := by
  rw [take_bind, sees]
  cases seen done with
  | ok first => simp
  | error stop => simp

theorem Sees.bind_allOrNothing (sees : step.Sees seen)
    (rest : ∀ first, (next first).AllOrNothing) : (step >>= next).AllOrNothing := by
  intro done stop done' stops
  rw [take_bind, sees] at stops
  cases is : seen done with
  | ok first =>
    rw [is] at stops
    exact rest first done stop done' stops
  | error stop' =>
    rw [is] at stops
    exact (congrArg Prod.snd stops).symm

theorem look_bind_ok_iff {session : Session} {at_ : Session → Except Stop α} :
    (session.look at_ >>= next).take done = (.ok value, done') ↔
      ∃ first, at_ (session.now done) = .ok first ∧ (next first).take done = (.ok value, done') :=
  (look_sees session at_).bind_ok_iff

theorem lift_bind_ok_iff {result : Except Stop α} :
    ((liftM result : Step α) >>= next).take done = (.ok value, done') ↔
      ∃ first, result = .ok first ∧ (next first).take done = (.ok value, done') :=
  (lift_sees result).bind_ok_iff

end Sees

/-! ## Standing still -/

/-- The step waits for ever. -/
def Stands (step : Step α) (done : Progress) : Prop := (step.take done).1 = .error .standstill

section Stands

variable {step : Step α} {seen : Progress → Except Stop α} {next : α → Step β} {done : Progress}

theorem Sees.bind_stands_iff (sees : step.Sees seen) : (step >>= next).Stands done ↔
    seen done = .error .standstill ∨ ∃ first, seen done = .ok first ∧ (next first).Stands done := by
  unfold Stands
  rw [take_bind, sees]
  cases seen done with
  | ok first => simp
  | error stop => simp

theorem look_bind_stands_iff {session : Session} {at_ : Session → Except Stop α} :
    (session.look at_ >>= next).Stands done ↔ at_ (session.now done) = .error .standstill ∨
      ∃ first, at_ (session.now done) = .ok first ∧ (next first).Stands done :=
  (look_sees session at_).bind_stands_iff

theorem lift_bind_stands_iff {result : Except Stop α} :
    ((liftM result : Step α) >>= next).Stands done ↔
      result = .error .standstill ∨ ∃ first, result = .ok first ∧ (next first).Stands done :=
  (lift_sees result).bind_stands_iff

theorem print_not_stands (bytes : List UInt8) : ¬ (print bytes).Stands done := by
  rw [Stands, take_print]
  nofun

theorem save_not_stands (cwd : FilePlace) (path : String) (bytes : List UInt8) :
    ¬ (save cwd path bytes).Stands done := by
  rw [Stands, take_save]
  cases done.files.write cwd path bytes <;> nofun

end Stands

/-! ## What is done at the end -/

theorem print_allOrNothing (bytes : List UInt8) : (print bytes).AllOrNothing := by
  intro done stop done' stops
  cases stops

theorem print_ok_iff {bytes : List UInt8} {done done' : Progress} :
    (print bytes).take done = (.ok (), done') ↔
      done' = { done with output := done.output ++ bytes } := by
  rw [take_print, Prod.mk.injEq, eq_comm (b := done')]
  simp

/-- A file that cannot be written is not touched. -/
theorem save_allOrNothing (cwd : FilePlace) (path : String) (bytes : List UInt8) :
    (save cwd path bytes).AllOrNothing := by
  intro done stop done' stops
  rw [take_save] at stops
  cases written : done.files.write cwd path bytes with
  | ok files =>
    rw [written] at stops
    cases stops
  | error error =>
    rw [written] at stops
    exact (congrArg Prod.snd stops).symm

theorem save_ok_iff {cwd : FilePlace} {path : String} {bytes : List UInt8}
    {done done' : Progress} :
    (save cwd path bytes).take done = (.ok (), done') ↔
      done'.output = done.output ∧ done.files.write cwd path bytes = .ok done'.files := by
  rw [take_save]
  cases written : done.files.write cwd path bytes with
  | ok files =>
    simp only [Prod.mk.injEq, true_and, Except.ok.injEq]
    constructor
    · rintro rfl
      exact ⟨rfl, rfl⟩
    · rintro ⟨output, files⟩
      cases done'
      rw [← output, files]
  | error error => simp [stopWith]

end EngineBridge.Command.Step
