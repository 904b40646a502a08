import EngineBridge.Engine.Dispatch
import EngineBridge.Proofs.Bridge.Parsing
/-!
# What requests come to: `dispatch`

A request text asks for the operation that its last `$type` member names (`Asks`), and of several
registrations of a name the last one counts (`LastUnder`).  `requests_served`: that operation is run
once, on the whole request, and what it does is what the request comes to; a request that asks for
nothing, or for what is not there, runs none.
-/

namespace EngineBridge

/-! ## What a text asks for -/

/-- A text asks for a name: it is that of an object with some members, in their order, and the last
of those that are called `$type` is the name. -/
structure Asks (text : String) (members : List (String × Json)) (name : String) : Prop where
  object : Json.readMembersText text = .ok members
  named : members.reverse.lookup "$type" = some (.string name)

/-- The value of an object's text, in which the last member of a name counts. -/
def requestOf (members : List (String × Json)) : Json := .object (NameMap.ofList members)

theorem operationName?_requestOf (members : List (String × Json)) :
    Engine.operationName? (requestOf members) =
      (members.reverse.lookup "$type").bind Json.asString? := by
  rw [← NameMap.find?_ofList]
  rfl

namespace Asks

variable {text name other : String} {members others : List (String × Json)}

theorem readText (asks : Asks text members name) : Json.readText text = .ok (requestOf members) :=
  Json.readText_of_readMembersText asks.object

theorem operationName? (asks : Asks text members name) :
    Engine.operationName? (requestOf members) = some name := by
  rw [operationName?_requestOf, asks.named]
  rfl

theorem unique (asks : Asks text members name) (again : Asks text others other) :
    others = members ∧ other = name := by
  have same : others = members := Except.ok.inj (again.object.symm.trans asks.object)
  subst same
  have named := again.named.symm.trans asks.named
  simp only [Option.some.injEq, Json.string.injEq] at named
  exact ⟨rfl, named⟩

end Asks

/-- A text asks for a name if it is read as an object in which `$type` is that name. -/
theorem exists_asks_iff {text name : String} :
    (∃ members, Asks text members name) ↔
      ∃ request, Json.readText text = .ok request ∧ Engine.operationName? request = some name := by
  constructor
  · rintro ⟨members, asks⟩
    exact ⟨requestOf members, asks.readText, asks.operationName?⟩
  · rintro ⟨request, read, named⟩
    cases request with
    | object object =>
      obtain ⟨members, all⟩ := Json.readMembersText_of_readText read
      have same := read.symm.trans (Json.readText_of_readMembersText all)
      simp only [Except.ok.injEq, Json.object.injEq] at same
      subst same
      have last := (operationName?_requestOf members).symm.trans named
      obtain ⟨value, is, text⟩ := Option.bind_eq_some_iff.1 last
      refine ⟨members, all, ?_⟩
      cases value with
      | string value => rw [is, Option.some.inj text]
      | _ => simp [Json.asString?] at text
    | _ => simp [Engine.operationName?, Json.member?] at named

/-! ## Which operation has a name -/

/-- What a reaction comes to, the response being the text of a value. -/
inductive Reaction.ComesTo : Reaction → Except EngineError String → Prop where
  | responded (value : Json) : ComesTo (.respond value) (.ok value.text)
  | failed (error : EngineError) : ComesTo (.fail error) (.error error)
  | panicked (text : String) : ComesTo (.panic (some text)) (.error (.panicked text))
  | panickedMutely : ComesTo (.panic none) (.error (.panicked "unknown panic"))

theorem Reaction.comesTo_iff {reaction : Reaction} {result : Except EngineError String} :
    reaction.ComesTo result ↔ result = reaction.result.map Json.text := by
  constructor
  · rintro (_ | _ | _ | _) <;> rfl
  · rintro rfl
    cases reaction with
    | respond value => exact .responded value
    | fail error => exact .failed error
    | panic text =>
      cases text with
      | none => exact .panickedMutely
      | some text => exact .panicked text

theorem Reaction.ComesTo.eq_fail {reaction : Reaction} {error : EngineError}
    (comes : reaction.ComesTo (.error error)) (noPanic : ∀ text, error ≠ .panicked text) :
    reaction = .fail error := by
  cases comes with
  | failed => rfl
  | panicked text => exact absurd rfl (noPanic text)
  | panickedMutely => exact absurd rfl (noPanic "unknown panic")

namespace Routine

variable {σ : Type} {registrations : List (String × Routine σ)} {name : String}
  {routine : Routine σ}

/-- An operation is the last one that was registered under a name, the built-in ones having been
registered before all others. -/
def LastUnder (registrations : List (String × Routine σ)) (name : String)
    (routine : Routine σ) : Prop :=
  ∃ before after, builtIn ++ registrations = before ++ (name, routine) :: after ∧
    ∀ entry ∈ after, entry.1 ≠ name

/-- No operation has a name. -/
def IsFree (registrations : List (String × Routine σ)) (name : String) : Prop :=
  ∀ entry ∈ builtIn ++ registrations, entry.1 ≠ name

theorem register_eq (registrations : List (String × Routine σ)) :
    register registrations = NameMap.ofList (builtIn ++ registrations) := by
  unfold register NameMap.ofList
  rw [List.foldl_append]

/-- The operation that is found under a name was the last one registered under it. -/
theorem find?_register_some_iff :
    (register registrations).find? name = some routine ↔
      LastUnder registrations name routine := by
  rw [register_eq, NameMap.find?_ofList, List.lookup_eq_some_iff]
  unfold LastUnder
  constructor
  · rintro ⟨after, before, split, notLater⟩
    refine ⟨before.reverse, after.reverse, ?_, ?_⟩
    · have reversed := congrArg List.reverse split
      simpa using reversed
    · intro entry later same
      have other := notLater entry (List.mem_reverse.1 later)
      simp [same] at other
  · rintro ⟨before, after, split, notLater⟩
    refine ⟨after.reverse, before.reverse, ?_, ?_⟩
    · simp [split]
    · intro entry later
      have other := notLater entry (List.mem_reverse.1 later)
      simpa using Ne.symm other

/-- No name is free under which an operation was registered. -/
theorem LastUnder.not_isFree (last : LastUnder registrations name routine) :
    ¬ IsFree registrations name := by
  obtain ⟨before, after, split, -⟩ := last
  intro free
  exact free (name, routine) (by simp [split]) rfl

theorem find?_register_none_iff :
    (register registrations).find? name = none ↔ IsFree registrations name := by
  rw [register_eq, NameMap.find?_ofList, List.lookup_eq_none_iff]
  unfold IsFree
  constructor
  · intro free entry among same
    have other := free entry (List.mem_reverse.2 among)
    simp [same] at other
  · intro free entry among
    have other := free entry (List.mem_reverse.1 among)
    simpa using Ne.symm other

/-! ## Serving a request -/

variable {text : String} {members : List (String × Json)} {s : σ}

/-- What a request comes to among some operations, and the state that it leaves. -/
inductive Serves (registrations : List (String × Routine σ)) (text : String) (s : σ) :
    Except EngineError String × σ → Prop where
  /-- The text asks for nothing. -/
  | refused {message : String} (nothing : ∀ members name, ¬ Asks text members name) :
      Serves registrations text s (.error (.invalidArgument message), s)
  | unknown {members : List (String × Json)} {name : String} (asks : Asks text members name)
      (free : IsFree registrations name) :
      Serves registrations text s (.error (.unknownOperation name), s)
  /-- The operation is run on the whole request. -/
  | served {members : List (String × Json)} {name : String} {routine : Routine σ}
      {result : Except EngineError String} (asks : Asks text members name)
      (last : LastUnder registrations name routine)
      (comes : (routine (requestOf members) s).1.ComesTo result) :
      Serves registrations text s (result, (routine (requestOf members) s).2)

/-- The last operation of a name serves a request for it. -/
theorem serve_found (asks : Asks text members name)
    (last : LastUnder registrations name routine) :
    serve (register registrations) text s =
      ((routine (requestOf members) s).1.result.map Json.text,
        (routine (requestOf members) s).2) := by
  unfold serve Engine.selectFrom
  simp only [asks.readText, asks.operationName?, find?_register_some_iff.2 last]

theorem serve_unknown (asks : Asks text members name) (free : IsFree registrations name) :
    serve (register registrations) text s = (.error (.unknownOperation name), s) := by
  unfold serve Engine.selectFrom
  simp only [asks.readText, asks.operationName?, find?_register_none_iff.2 free]

theorem serve_refused (registrations : List (String × Routine σ))
    (nothing : ∀ members name, ¬ Asks text members name) (s : σ) :
    ∃ message,
      serve (register registrations) text s = (.error (.invalidArgument message), s) := by
  unfold serve Engine.selectFrom
  cases read : Json.readText text with
  | error error => exact ⟨_, rfl⟩
  | ok request =>
    cases named : Engine.operationName? request with
    | none =>
      simp only [named]
      exact ⟨_, rfl⟩
    | some name =>
      obtain ⟨members, asks⟩ := exists_asks_iff.2 ⟨request, read, named⟩
      exact absurd asks (nothing members name)

/-- **Every request is served**, refused or not known. -/
theorem serve_serves (registrations : List (String × Routine σ)) (text : String) (s : σ) :
    Serves registrations text s (serve (register registrations) text s) := by
  by_cases asks : ∃ members name, Asks text members name
  · obtain ⟨members, name, asks⟩ := asks
    cases found : (register registrations).find? name with
    | none =>
      have free := find?_register_none_iff.1 found
      rw [serve_unknown asks free]
      exact .unknown asks free
    | some routine =>
      have last := find?_register_some_iff.1 found
      rw [serve_found asks last]
      exact .served asks last (Reaction.comesTo_iff.2 rfl)
  · have nothing : ∀ members name, ¬ Asks text members name := by
      intro members name found
      exact asks ⟨members, name, found⟩
    obtain ⟨message, is⟩ := serve_refused registrations nothing s
    rw [is]
    exact .refused nothing

/-- The failures that an operation answers come from where the text leads. -/
def FailsWith (registrations : List (String × Routine σ)) (text : String) (s : σ)
    (error : EngineError) : Prop :=
  ∃ members name routine, Asks text members name ∧ LastUnder registrations name routine ∧
    (routine (requestOf members) s).1 = .fail error

theorem FailsWith.serve_eq {error : EngineError} (fails : FailsWith registrations text s error) :
    (serve (register registrations) text s).1 = .error error := by
  obtain ⟨members, name, routine, asks, last, fails⟩ := fails
  rw [serve_found asks last, fails]
  rfl

/-- A request is an invalid argument if it asks for nothing, or its operation says so. -/
theorem serve_invalidArgument_iff :
    (∃ message, (serve (register registrations) text s).1 = .error (.invalidArgument message)) ↔
      (∀ members name, ¬ Asks text members name) ∨
        ∃ message, FailsWith registrations text s (.invalidArgument message) := by
  constructor
  · rintro ⟨message, is⟩
    have serves := serve_serves registrations text s
    generalize serve (register registrations) text s = outcome at is serves
    cases serves with
    | refused nothing => exact .inl nothing
    | unknown => cases is
    | served asks last comes =>
      dsimp only at is
      subst is
      exact .inr ⟨message, _, _, _, asks, last, comes.eq_fail nofun⟩
  · rintro (nothing | ⟨message, fails⟩)
    · obtain ⟨message, is⟩ := serve_refused registrations nothing s
      exact ⟨message, congrArg Prod.fst is⟩
    · exact ⟨message, fails.serve_eq⟩

/-- A name is unknown if nothing was registered under it, or the operation that the request asks
for says so. -/
theorem serve_unknownOperation_iff :
    (serve (register registrations) text s).1 = .error (.unknownOperation name) ↔
      ((∃ members, Asks text members name) ∧ IsFree registrations name) ∨
        FailsWith registrations text s (.unknownOperation name) := by
  constructor
  · intro is
    have serves := serve_serves registrations text s
    generalize serve (register registrations) text s = outcome at is serves
    cases serves with
    | refused => cases is
    | unknown asks free =>
      cases is
      exact .inl ⟨⟨_, asks⟩, free⟩
    | served asks last comes =>
      dsimp only at is
      subst is
      exact .inr ⟨_, _, _, asks, last, comes.eq_fail nofun⟩
  · rintro (⟨⟨members, asks⟩, free⟩ | fails)
    · exact congrArg Prod.fst (serve_unknown asks free)
    · exact fails.serve_eq

/-! ## Echoes -/

/-- While nothing else was registered under its name, what echoes is the built-in operation. -/
theorem lastUnder_echo (notReplaced : ∀ entry ∈ registrations, entry.1 ≠ "echo") :
    LastUnder registrations "echo" (ofHandler Handler.echo) := by
  refine ⟨[("ping", ofHandler Handler.ping)],
    ("sleep", ofHandler Handler.sleep) :: registrations, rfl, ?_⟩
  intro entry later
  rcases List.mem_cons.1 later with rfl | later
  · simp
  · exact notReplaced entry later

/-- An echo is the request without the members that are called `$type`. -/
theorem react_echo (members : List (String × Json)) :
    Handler.echo.react (requestOf members) =
      .respond (requestOf (members.filter fun member => member.1 ≠ "$type")) := by
  unfold requestOf
  rw [← NameMap.erase_ofList]
  rfl

/-! ## Handlers -/

/-- Handlers as operations. -/
def ofHandlers (handlers : List (String × Handler)) : List (String × Routine σ) :=
  handlers.map fun entry => (entry.1, ofHandler entry.2)

/-- The handlers of an engine are those that it has anyway and those that were registered. -/
theorem operations_withOperations (handlers : List (String × Handler)) :
    (Engine.withOperations handlers).operations =
      NameMap.ofList ([("ping", Handler.ping), ("echo", Handler.echo), ("sleep", Handler.sleep)]
        ++ handlers) := by
  unfold Engine.withOperations
  induction handlers using List.reverseRecOn with
  | nil => rfl
  | append_singleton handlers last ih =>
    obtain ⟨name, handler⟩ := last
    rw [List.foldl_append, ← List.append_assoc, NameMap.ofList_append, ← ih]
    rfl

theorem find?_ofHandlers (handlers : List (String × Handler)) (name : String) :
    (register (ofHandlers handlers)).find? name =
      ((Engine.withOperations handlers).operations.find? name).map
        (ofHandler : Handler → Routine σ) := by
  rw [register_eq, operations_withOperations, NameMap.find?_ofList, NameMap.find?_ofList,
    ← NameMap.lookup_map, List.map_reverse, List.map_append]
  rfl

/-- **An engine serves as its handlers do**, and they leave the state alone. -/
theorem serve_ofHandlers (handlers : List (String × Handler)) (text : String) (s : σ) :
    serve (register (ofHandlers handlers)) text s =
      ((Engine.withOperations handlers).dispatch text, s) := by
  unfold serve Engine.dispatch Engine.select Engine.selectFrom
  cases Json.readText text with
  | error error => rfl
  | ok request =>
    cases named : Engine.operationName? request with
    | none => simp only [named]; rfl
    | some name =>
      simp only [named, find?_ofHandlers]
      cases (Engine.withOperations handlers).operations.find? name with
      | none => rfl
      | some handler =>
        cases reacts : handler.react request <;>
          simp [ofHandler, Handler.run, reacts, Except.map, bind, Except.bind, pure, Except.pure]

/-! ## Requests -/

/-- **What requests come to.**  A request is an invalid argument exactly if its text asks for
nothing or its operation says so, and an unknown operation exactly if nothing was ever registered
under the name it asks for or its operation says so.  Otherwise the last operation of the name is
run on the whole request, once, as it leaves the state as one run does; the text of its value, its
failure or its panic is what the request comes to.  Without an operation to run the state stays.
An echo is the request without its `$type` members.  All this is so for engines, whose handlers
leave the state alone. -/
theorem requests_served (registrations : List (String × Routine σ)) (text : String) (s : σ) :
    ((∃ message, (serve (register registrations) text s).1 = .error (.invalidArgument message)) ↔
        (∀ members name, ¬ Asks text members name) ∨
          ∃ message, FailsWith registrations text s (.invalidArgument message)) ∧
      (∀ name, (serve (register registrations) text s).1 = .error (.unknownOperation name) ↔
        ((∃ members, Asks text members name) ∧ IsFree registrations name) ∨
          FailsWith registrations text s (.unknownOperation name)) ∧
      (∀ members name routine, Asks text members name → LastUnder registrations name routine →
        (routine (requestOf members) s).1.ComesTo (serve (register registrations) text s).1 ∧
          (serve (register registrations) text s).2 = (routine (requestOf members) s).2) ∧
      ((∀ members name, Asks text members name → IsFree registrations name) →
        (serve (register registrations) text s).2 = s) ∧
      (∀ members, Asks text members "echo" → (∀ entry ∈ registrations, entry.1 ≠ "echo") →
        serve (register registrations) text s =
          (.ok (requestOf (members.filter fun member => member.1 ≠ "$type")).text, s)) ∧
      ∀ handlers : List (String × Handler),
        serve (register (ofHandlers handlers)) text s =
          ((Engine.withOperations handlers).dispatch text, s) := by
  refine ⟨serve_invalidArgument_iff, fun name => serve_unknownOperation_iff, ?_, ?_, ?_, ?_⟩
  · intro members name routine asks last
    rw [serve_found asks last]
    exact ⟨Reaction.comesTo_iff.2 rfl, rfl⟩
  · intro free
    have serves := serve_serves registrations text s
    generalize serve (register registrations) text s = outcome at serves
    cases serves with
    | refused => rfl
    | unknown => rfl
    | served asks last => exact absurd (free _ _ asks) last.not_isFree
  · intro members asks notReplaced
    rw [serve_found asks (lastUnder_echo notReplaced)]
    unfold ofHandler
    rw [react_echo]
    rfl
  · intro handlers
    exact serve_ofHandlers handlers text s

/-- Counts how often it is run, and answers the request. -/
def counting : Routine Nat := fun request count => (.respond request, count + 1)

/-- Two registrations of a name, the first of which never comes to run. -/
def recount : List (String × Routine Nat) :=
  [("count", fun _ count => (.panic none, count + 100)), ("ping", counting), ("count", counting)]

/-- Asks for one name and then for another. -/
def twiceTyped : String :=
  "\x7b\"$type\":\"ping\",\"b\":\x7b\"$type\":7\x7d,\"$type\":\"count\"\x7d"

/-- The last `$type` and the last registration of its name count, and the request is handed over
with everything in it. -/
theorem requests_served_twiceTyped :
    Asks twiceTyped [("$type", .string "ping"), ("b", .object [("$type", .ofNat 7)]),
        ("$type", .string "count")] "count" ∧
      LastUnder recount "count" counting ∧
      (Reaction.respond (.object [("$type", .string "count"),
        ("b", .object [("$type", .ofNat 7)])])).ComesTo
          (serve (register recount) twiceTyped 5).1 ∧
      (serve (register recount) twiceTyped 5).2 = 6 := by
  have asks : Asks twiceTyped [("$type", .string "ping"), ("b", .object [("$type", .ofNat 7)]),
      ("$type", .string "count")] "count" :=
    ⟨by rfl, by rfl⟩
  have last : LastUnder recount "count" counting :=
    ⟨builtIn ++ [recount[0], recount[1]], [], rfl, nofun⟩
  obtain ⟨comes, once⟩ := (requests_served recount twiceTyped 5).2.2.1 _ _ _ asks last
  exact ⟨asks, last, comes, once⟩

end Routine

end EngineBridge
