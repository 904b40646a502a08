import EngineBridge.Command.Arguments
import EngineBridge.Proofs.Basic
import EngineBridge.Proofs.Text.Utf8
/-!
# Options and variables

The words of a command line ask for the same command whatever variables are set
(`readArguments_run_iff`).  Only the options that hold for every command can come from variables
too, and those that stand among the words win (`asksFilter_of_run`).
-/

namespace EngineBridge.Command

variable {env : Environment} {words : List String} {globals : Globals} {invocation : Invocation}

/-! ## What words say -/

/-- What the words of a command line say: the options before the command, what stands behind it, and
what it is to do. -/
inductive Says (words : List String) (before after : Matches) : Invocation → Prop where
  | intro {word : String} {rest : List String} {name : Name} {ended : Option (String × List String)}
    {invocation : Invocation}
    (front : readLevel globalOptions true [] .plain .empty words = .ok (before, some (word, rest)))
    (named : Name.ofWord? word = some name)
    (back : readLevel (name.options ++ globalOptions) false name.arguments .plain .empty rest =
      .ok (after, ended))
    (makes : invocationOf name after = .ok invocation) : Says words before after invocation

theorem request_ne_run (interruption : Interruption) (command : Option Name) :
    interruption.request command ≠ .ok (.run globals invocation) := by
  cases interruption <;> simp [Interruption.request]

theorem helpRequest_ne_run (words : List String) :
    helpRequest words ≠ .ok (.run globals invocation) := by
  unfold helpRequest
  intro is
  split at is
  · simp at is
  · split at is
    · simp at is
    · split at is <;> simp at is
  · simp at is

/-- **Which command is run is up to the words**; variables only add to the options for every
command. -/
theorem readArguments_run_iff :
    readArguments env words = .ok (.run globals invocation) ↔
      ∃ before after, Says words before after invocation ∧
        globalsOf env before after = .ok globals := by
  constructor
  · intro asked
    unfold readArguments at asked
    split at asked
    · exact absurd asked (request_ne_run _ _)
    · simp at asked
    · rename_i before word rest front
      split at asked
      · rename_i name named
        unfold readCommand at asked
        split at asked
        · exact absurd asked (request_ne_run _ _)
        · rename_i after ended back
          simp only [bind_ok_iff, pure, Except.pure, Except.ok.injEq, Request.run.injEq] at asked
          obtain ⟨command, makes, options, is, rfl, rfl⟩ := asked
          exact ⟨before, after, .intro front named back makes, is⟩
      · split at asked
        · exact absurd asked (helpRequest_ne_run _)
        · simp at asked
  · rintro ⟨before, after, said, is⟩
    obtain ⟨front, named, back, makes⟩ := said
    simp [readArguments, readCommand, front, named, back, makes, is, bind, Except.bind, pure,
      Except.pure]

/-! ## Options for every command -/

variable {before after : Matches} {option : OptionSpec} {value : Option String}

/-- The value of an option for every command, as the words give it: that after the command wins. -/
def givenValue (before after : Matches) (option : OptionSpec) : Option String :=
  (after.value? option).or (before.value? option)

/-- A value that is given wins over the variable, and without one it is that of the variable. -/
theorem globalValue_ok (is : globalValue env before after option = .ok value) :
    (∃ given, givenValue before after option = some given ∧ value = some given) ∨
      givenValue before after option = none ∧ variableValue env option = .ok value := by
  unfold globalValue at is
  split at is
  · rename_i given other behind front
    cases is
    exact .inl ⟨given, by rw [givenValue, behind]; rfl, rfl⟩
  · obtain ⟨other, known, is⟩ := bind_ok_iff.1 is
    have same : (givenValue before after option).or other = value := Except.ok.inj is
    cases given : givenValue before after option with
    | none =>
      rw [given] at same
      exact .inr ⟨rfl, same ▸ known⟩
    | some text =>
      rw [given] at same
      exact .inl ⟨text, rfl, same.symm⟩

theorem globalValue_noVariables (before after : Matches) (option : OptionSpec) :
    globalValue ⟨[]⟩ before after option = .ok (givenValue before after option) := by
  have unset : variableValue ⟨[]⟩ option = .ok none := by
    unfold variableValue
    cases option.value with
    | none => rfl
    | some form =>
      have none : form.variableName.bind (Environment.bytes? ⟨[]⟩) = none := by
        cases form.variableName <;> rfl
      simp only [none]
  unfold globalValue givenValue
  rw [unset]
  cases after.value? option with
  | none => cases before.value? option <;> rfl
  | some given => cases before.value? option <;> rfl

/-! ## The log filter -/

/-- The log filter that is asked for, by the one among the words: without one there it is the text
of the variable, even an empty one. -/
inductive AsksFilter (env : Environment) : Option String → Option String → Prop where
  | byWords (filter : String) : AsksFilter env (some filter) (some filter)
  | byVariable {text : String} (set : env.bytes? "CONDUIT_LOG" = some (Utf8.encode text)) :
    AsksFilter env none (some text)
  | nothing (unset : env.bytes? "CONDUIT_LOG" = none) : AsksFilter env none none

theorem asksFilter_of_variable (is : variableValue env logOption = .ok value) :
    AsksFilter env none value := by
  have named : (some "CONDUIT_LOG").bind env.bytes? = env.bytes? "CONDUIT_LOG" := rfl
  simp only [variableValue, logOption, Environment.logVariable, named] at is
  cases set : env.bytes? "CONDUIT_LOG" with
  | none =>
    simp only [set, Except.ok.injEq] at is
    subst is
    exact .nothing set
  | some bytes =>
    cases decoded : Utf8.decode bytes with
    | error fault => simp [set, decoded] at is
    | ok text =>
      simp only [set, decoded, acceptedValue, ValueKind.accepts, if_true, Except.ok.injEq] at is
      subst is
      exact .byVariable (by rw [set, Utf8.decode_ok_iff.1 decoded])

theorem asksFilter_of_globalValue (is : globalValue env before after logOption = .ok value) :
    AsksFilter env (givenValue before after logOption) value := by
  rcases globalValue_ok is with ⟨filter, given, rfl⟩ | ⟨given, set⟩
  · rw [given]
    exact .byWords filter
  · rw [given]
    exact asksFilter_of_variable set

/-- **The log filter of a command line** is asked for by its words, which ask for the same command
when no variables are set, or else by the variable. -/
theorem asksFilter_of_run (asked : readArguments env words = .ok (.run globals invocation)) :
    ∃ flags, readArguments ⟨[]⟩ words = .ok (.run flags invocation) ∧
      AsksFilter env flags.log globals.log := by
  obtain ⟨before, after, said, is⟩ := readArguments_run_iff.1 asked
  obtain ⟨log, logged, config, -, same⟩ := by simpa only [globalsOf, bind_ok_iff] using is
  have alone : globalsOf ⟨[]⟩ before after =
      .ok ⟨givenValue before after logOption, givenValue before after configOption⟩ := by
    rw [globalsOf, globalValue_noVariables, globalValue_noVariables]
    rfl
  obtain rfl : Globals.mk log config = globals := Except.ok.inj same
  exact ⟨_, readArguments_run_iff.2 ⟨before, after, said, alone⟩, asksFilter_of_globalValue logged⟩

end EngineBridge.Command
