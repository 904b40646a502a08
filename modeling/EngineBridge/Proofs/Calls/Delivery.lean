import EngineBridge.Native.Scripted
import EngineBridge.Proofs.Calls.Runs
/-!
# Outcomes are delivered once, and to their own call

`delivers_exactly_once`: whatever callers, engines and other users of the arena do, each token
is sent at most one outcome, a delivery says whether there was somebody to receive it, and a
caller who looks at a call sees the outcome that was delivered to the call's own token and
nothing before that.
-/

namespace EngineBridge

/-- Whether a breach of rules is that of a call that nobody will answer. -/
def Violation.isLost : Violation → Bool
  | completionLost _ => true
  | _ => false

namespace Exchange

variable {σ : Type} {libraries : BridgeId → NativeLibrary σ} {engines : BridgeId → EngineHandle}
  {x x' y : Exchange σ} {calls : List Call} {hand : List Token} {held : BridgeId → Nat}

/-! ## What resumes and callbacks do for those who wait -/

/-- No call comes or goes, and each new delivery says whether somebody awaited it. -/
structure Sends (x x' : Exchange σ) : Prop where
  next : x'.arena.nextToken = x.arena.nextToken
  awaited : ∀ t, x'.isAwaited t = x.isAwaited t
  log : ∃ new, x'.deliveries = new ++ x.deliveries ∧
    ∀ delivery ∈ new, delivery.resumed = .delivered ↔ x.isAwaited delivery.token = true

theorem Sends.silent (next : x'.arena.nextToken = x.arena.nextToken)
    (mailboxes : x'.mailboxes = x.mailboxes) (deliveries : x'.deliveries = x.deliveries) :
    Sends x x' :=
  ⟨next, fun t => by rw [isAwaited, mailboxes, isAwaited],
    [], by rw [deliveries]; rfl, fun _ member => absurd member List.not_mem_nil⟩

theorem Sends.trans (h : Sends x y) (h' : Sends y x') : Sends x x' := by
  obtain ⟨new, eq, told⟩ := h.log
  obtain ⟨new', eq', told'⟩ := h'.log
  refine ⟨h'.next.trans h.next, fun t => (h'.awaited t).trans (h.awaited t), new' ++ new,
    by rw [eq', eq, List.append_assoc], fun delivery member => ?_⟩
  rcases List.mem_append.1 member with member | member
  · rw [told' delivery member, h.awaited]
  · exact told delivery member

/-- An outcome in somebody's hand is delivered exactly if somebody awaits it. -/
theorem Books.send_sends {token : Token} (h : Books engines x calls (token :: hand) held)
    (outcome : Outcome) : Sends x (x.send token outcome).2 := by
  refine ⟨by rw [send_arena], send_isAwaited token outcome x, [⟨token, outcome, _⟩],
    send_deliveries token outcome x, fun delivery member => ?_⟩
  rw [List.mem_singleton.1 member]
  cases mailbox : x.mailboxes token with
  | waiting => simp [Exchange.send, mailbox, isAwaited, Mailbox.isOpen]
  | holding outcome' => exact absurd mailbox (h.not_holding outcome')
  | closed => simp [Exchange.send, mailbox, isAwaited, Mailbox.isOpen]

/-- A direct `resume` delivers its outcome, exactly if somebody awaits it. -/
theorem Books.resume_sends {token : Token} {outcome : Outcome} {resumed : Resumed}
    (h : Books engines x calls hand held) (done : x.resume token outcome = (.ok resumed, x')) :
    Sends x x' ∧ x'.deliveries = ⟨token, outcome, resumed⟩ :: x.deliveries := by
  obtain ⟨bridge, z, taken, rfl, rfl⟩ := resume_ok done
  have sent := ((h.takeSlot taken).lower bridge).send_sends outcome
  have deliveries : z.deliveries = x.deliveries := by rw [(takeSlot_ok taken).2]
  have before : Sends x (z.lower bridge) := by
    rw [(takeSlot_ok taken).2]; exact .silent rfl rfl rfl
  exact ⟨(before.trans sent).trans (.silent rfl rfl rfl),
    (send_deliveries token outcome _).trans (congrArg _ deliveries)⟩

theorem Books.complete_sends {callback : Callback} (h : Books engines x calls hand held)
    (done : x.complete libraries callback = .ok x') : Sends x x' := by
  obtain ⟨bridge, z, outcome, native, resumed, found, -, resumes⟩ := complete_ok done
  have sent := (((((h.enter callback.context).lookUp found).native native).release).resume_sends
    resumes).1
  have before : Sends x (Exchange.release bridge { z with native := native }) := by
    rw [(lookUp_ok found).2]; exact .silent rfl rfl rfl
  exact before.trans sent

theorem Books.completeAll_sends {callbacks : List Callback} (h : Books engines x calls hand held)
    (done : Exchange.completeAll libraries callbacks x = .ok x') : Sends x x' := by
  -- what a callback sends is known of kept books, so the two are carried together
  have both : Books engines x' calls hand held ∧ Sends x x' :=
    completeAll_keeps (P := fun y => Books engines y calls hand held ∧ Sends x y)
      (fun _ _ _ _ ⟨books, before⟩ completed =>
        ⟨books.complete completed, before.trans (books.complete_sends completed)⟩)
      ⟨h, .silent rfl rfl rfl⟩ done
  exact both.2

theorem Books.advance_sends {callback : Callback} {stage : Stage} {next : Option Stage}
    (h : Books engines x calls ((stage.inHand? callback.context).toList ++ hand) held)
    (done : x.advance libraries callback stage = .ok (next, x')) : Sends x x' := by
  cases Exchange.advance_ok done with
  | retires outcome taken =>
    obtain ⟨-, same⟩ := takeSlot_ok taken
    rw [same]
    exact .silent rfl rfl rfl
  | sends bridge outcome => exact h.send_sends outcome
  | _ => exact .silent rfl rfl rfl

/-! ## What looking at a call does -/

/-- What a caller sees of a call, which may have a limit. -/
inductive Shown (x x' : Exchange σ) (limit : Option Duration) (passed : Bool) :
    Call → Progress → Call → Prop where
  /-- There was nothing left to see. -/
  | gone (same : x' = x) : Shown x x' limit passed .gone .gone .gone
  /-- The request is no C text, and nothing was registered. -/
  | refused {bridge : BridgeId} {request : String} {error : BridgeError}
    (refusal : toCText request = .error error) (same : x' = x.release bridge) :
    Shown x x' limit passed (.unstarted bridge request) (.ready (.error error)) .gone
  /-- The outcome of the call's own token was delivered. -/
  | answered {call : Call} {token : Token} {outcome : Outcome} (own : x.tokenFor call = some token)
    (delivered : ⟨token, outcome, .delivered⟩ ∈ x'.deliveries) :
    Shown x x' limit passed call (.ready outcome) .gone
  /-- Nothing was sent to the call's own token. -/
  | waits {call : Call} {bridge : BridgeId} {token : Token} (own : x.tokenFor call = some token)
    (of : call.bridge? = some bridge) (unsent : token ∉ x'.sent)
    (inTime : limit = none ∨ passed = false) :
    Shown x x' limit passed call .pending (.started bridge token)
  /-- Nothing was sent to the call's own token when its limit was seen to have passed. -/
  | timedOut {call : Call} {token : Token} {span : Duration} (own : x.tokenFor call = some token)
    (unsent : token ∉ x'.sent) (limited : limit = some span) (late : passed = true) :
    Shown x x' limit passed call (.ready (.error (.timedOut span))) .gone

theorem Books.pollWithin_shown {limit : Option Duration} {passed : Bool} {call call' : Call}
    {progress : Progress} (h : Books engines x (call :: calls) hand held)
    (done : x.pollWithin libraries hand limit passed call = .ok (progress, call', x')) :
    Shown x x' limit passed call progress call' := by
  obtain ⟨seen, call'', z, polled, ended | ended⟩ := pollWithin_ok done
  · obtain ⟨rfl, rfl, rfl, inTime⟩ := ended
    cases (h.pollAmid polled).2 with
    | gone same => exact .gone same
    | refused refusal same => exact .refused refusal same
    | answered own delivered => exact .answered own delivered
    | waits own of unsent => exact .waits own of unsent (inTime rfl)
  · obtain ⟨span, rfl, limited, late, rfl, rfl, rfl⟩ := ended
    cases (h.pollAmid polled).2 with
    | waits own of unsent =>
      exact .timedOut own (by rw [Exchange.sent, (drop_calm _ _).deliveries]; exact unsent) limited late

/-- A new delivery says whether somebody awaited it, or was given a token only now. -/
def SendsAmid (x x' : Exchange σ) : Prop :=
  ∃ new, x'.deliveries = new ++ x.deliveries ∧ ∀ delivery ∈ new,
    delivery.resumed = .delivered ↔
      x.isAwaited delivery.token = true ∨ delivery.token = x.arena.nextToken

theorem SendsAmid.silent (deliveries : x'.deliveries = x.deliveries) : SendsAmid x x' :=
  ⟨[], by rw [deliveries]; rfl, fun _ member => absurd member List.not_mem_nil⟩

theorem SendsAmid.silently (h : SendsAmid x y) (deliveries : x'.deliveries = y.deliveries) :
    SendsAmid x x' := by
  obtain ⟨new, eq, told⟩ := h
  exact ⟨new, deliveries.trans eq, told⟩

/-- Only issued tokens are sent to, so the next one is not among them. -/
theorem Sends.amid (h : Sends x x') (books : Books engines x' calls hand held) : SendsAmid x x' := by
  obtain ⟨new, eq, told⟩ := h.log
  refine ⟨new, eq, fun delivery member => (told delivery member).trans ⟨.inl, ?_⟩⟩
  rintro (awaited | fresh)
  · exact awaited
  · have sent : delivery.token ∈ x'.sent :=
      List.mem_map_of_mem (eq ▸ List.mem_append_left _ member)
    have := List.count_pos_iff.2 sent
    have issued := ((books.issued delivery.token).1 (by omega)).2
    rw [fresh, h.next] at issued
    exact absurd issued (Nat.lt_irrefl _)

theorem Books.handOver_sends {bridge : BridgeId} {text : CText} {token : Token}
    (h : Books engines x calls hand (bump held bridge))
    (done : x.handOver libraries bridge text = .ok (token, x')) : SendsAmid x x' := by
  obtain ⟨-, completed⟩ := handOver_ok done
  obtain ⟨new, eq, told⟩ := ((h.handed text).completeAll_sends completed).log
  refine ⟨new, eq, fun delivery member => (told delivery member).trans ?_⟩
  have mailboxes : (x.handed libraries bridge text).mailboxes
      = setAt x.mailboxes x.arena.nextToken .waiting := rfl
  rw [isAwaited, mailboxes, setAt_apply]
  by_cases fresh : delivery.token = x.arena.nextToken
  · simp [fresh, Mailbox.isOpen]
  · simp [fresh, isAwaited]

theorem Books.pollAmid_sends {call call' : Call} {progress : Progress}
    (h : Books engines x (call :: calls) hand held)
    (done : x.pollAmid libraries hand call = .ok (progress, call', x')) : SendsAmid x x' := by
  cases pollAmid_ok done with
  | gone => exact .silent rfl
  | started collected => exact .silent (collect_calm collected).1.deliveries
  | refused refusal => exact .silent rfl
  | handed sent handed collected =>
    exact ((unstarted_iff.1 h).handOver_sends handed).silently (collect_calm collected).1.deliveries

theorem Books.pollWithin_sends {limit : Option Duration} {passed : Bool} {call call' : Call}
    {progress : Progress} (h : Books engines x (call :: calls) hand held)
    (done : x.pollWithin libraries hand limit passed call = .ok (progress, call', x')) :
    SendsAmid x x' := by
  obtain ⟨seen, call'', z, polled, calm⟩ := pollWithin_calmly done
  exact (h.pollAmid_sends polled).silently calm.deliveries

/-- Only a call that is not started gets a token. -/
theorem pollWithin_nextToken {limit : Option Duration} {passed : Bool} {call call' : Call}
    {progress : Progress}
    (done : x.pollWithin libraries hand limit passed call = .ok (progress, call', x')) :
    x'.arena.nextToken = x.arena.nextToken ∨ ∃ bridge request, call = .unstarted bridge request := by
  obtain ⟨seen, call'', z, polled, calm⟩ := pollWithin_calmly done
  rw [calm.arena]
  cases pollAmid_ok polled with
  | gone => exact .inl rfl
  | started collected => exact .inl (by rw [(collect_calm collected).1.arena])
  | refused refusal => exact .inl rfl
  | handed sent handed collected => exact .inr ⟨_, _, rfl⟩

/-! ## A call is never lost -/

theorem diagnose_isLost (arena : Arena) (token : Token) : (arena.diagnose token).isLost = false := by
  unfold Arena.diagnose; split <;> rfl

theorem take_error_isLost {out : OutSlots} {violation : Violation}
    (h : out.take = .error violation) : violation.isLost = false := by
  unfold OutSlots.take at h
  split at h
  · simp at h
  · simp at h
  · simp only [Except.error.injEq] at h
    rw [← h]; rfl

theorem takeDetail_error_isLost {library : NativeLibrary σ} {thread : ThreadId} {s s' : σ}
    {violation : Violation} (h : library.takeDetail thread s = (.error violation, s')) :
    violation.isLost = false :=
  take_error_isLost (congrArg Prod.fst h)

theorem classify_error_isLost {library : NativeLibrary σ} {callback : Callback} {s s' : σ}
    {violation : Violation} (h : classify library callback s = (.error violation, s')) :
    violation.isLost = false := by
  unfold classify checkStatus at h
  split at h
  · rename_i v s'' faulted
    simp only [Prod.mk.injEq, Except.error.injEq] at h
    split at faulted
    · simp at faulted
    · split at faulted
      · simp at faulted
      · rename_i v' s''' read
        simp only [Prod.mk.injEq, Except.error.injEq, Failure.fault.injEq] at faulted
        unfold NativeLibrary.readDetail at read
        split at read
        · rename_i taken
          simp only [Prod.mk.injEq, Except.error.injEq] at read
          rw [← h.1, ← faulted.1, ← read.1]
          exact takeDetail_error_isLost taken
        · simp at read
  · simp at h
  · split at h
    · simp at h
    · simp only [Prod.mk.injEq, Except.error.injEq] at h
      rw [← h.1]; rfl

theorem lookUp_error_isLost {token : Token} {violation : Violation}
    (h : x.lookUp token = .error violation) : violation.isLost = false := by
  unfold lookUp at h
  split at h
  · simp only [Except.error.injEq] at h
    rw [← h]; exact diagnose_isLost _ _
  · simp at h

theorem takeSlot_error_isLost {token : Token} {violation : Violation}
    (h : x.takeSlot token = .error violation) : violation.isLost = false := by
  unfold takeSlot at h
  split at h
  · simp only [Except.error.injEq] at h
    rw [← h]; exact diagnose_isLost _ _
  · simp at h

theorem complete_error_isLost {callback : Callback} {violation : Violation}
    (h : x.complete libraries callback = .error violation) : violation.isLost = false := by
  unfold complete at h
  split at h
  · rename_i missing
    simp only [Except.error.injEq] at h
    exact h ▸ lookUp_error_isLost missing
  · split at h
    · rename_i faulted
      simp only [Except.error.injEq] at h
      exact h ▸ classify_error_isLost faulted
    · split at h
      · rename_i missing
        simp only [Except.error.injEq] at h
        rw [resume_eq] at missing
        split at missing
        · rename_i untaken
          simp only [Prod.mk.injEq, Except.error.injEq] at missing
          rw [← h, ← missing.1]
          exact takeSlot_error_isLost untaken
        · simp at missing
      · simp at h

theorem completeAll_error_isLost {violation : Violation} :
    ∀ {callbacks : List Callback} {x : Exchange σ},
      completeAll libraries callbacks x = .error violation → violation.isLost = false
  | [], x, h => by simp [completeAll] at h
  | callback :: callbacks, x, h => by
    unfold completeAll at h
    split at h
    · rename_i faulted
      simp only [Except.error.injEq] at h
      exact h ▸ complete_error_isLost faulted
    · exact completeAll_error_isLost h

theorem advance_error_isLost {callback : Callback} {stage : Stage} {violation : Violation}
    (h : x.advance libraries callback stage = .error violation) : violation.isLost = false := by
  cases stage with
  | looking =>
    simp only [advance] at h
    split at h
    · rename_i missing
      simp only [Except.error.injEq] at h
      exact h ▸ lookUp_error_isLost missing
    · simp at h
  | reading bridge =>
    simp only [advance, NativeLibrary.readReport] at h
    split at h
    · rename_i faulted
      simp only [Except.error.injEq] at h
      split at faulted
      · split at faulted
        · simp at faulted
        · simp only [Prod.mk.injEq, Except.error.injEq] at faulted
          rw [← h, ← faulted.1]; rfl
      · split at faulted
        · rename_i taken
          simp only [Prod.mk.injEq, Except.error.injEq] at faulted
          rw [← h, ← faulted.1]
          exact takeDetail_error_isLost taken
        · simp at faulted
    · simp at h
  | retiring outcome =>
    simp only [advance] at h
    split at h
    · rename_i missing
      simp only [Except.error.injEq] at h
      exact h ▸ takeSlot_error_isLost missing
    · simp at h
  | _ => simp [advance] at h

theorem Books.collect_ne_error {bridge : BridgeId} {token : Token} {violation : Violation}
    (h : Books engines x (.started bridge token :: calls) hand held) :
    x.collect bridge token hand ≠ .error violation := by
  rcases h.collect_eq with ⟨outcome, -, ready⟩ | ⟨-, pending⟩
  · rw [ready]; simp
  · rw [pending]; simp

/-- Whoever looks at a call does not find it lost. -/
theorem Books.pollWithin_error_isLost {limit : Option Duration} {passed : Bool} {call : Call}
    {violation : Violation} (h : Books engines x (call :: calls) hand held)
    (failed : x.pollWithin libraries hand limit passed call = .error violation) :
    violation.isLost = false := by
  unfold Exchange.pollWithin at failed
  split at failed
  · rename_i polled
    simp only [Except.error.injEq] at failed
    subst failed
    cases call with
    | gone => simp [Exchange.pollAmid] at polled
    | started bridge token => exact absurd polled h.collect_ne_error
    | unstarted bridge request =>
      simp only [Exchange.pollAmid] at polled
      split at polled
      · simp at polled
      · split at polled
        · rename_i handed
          simp only [Except.error.injEq] at polled
          exact polled ▸ completeAll_error_isLost (handOver_error handed)
        · rename_i token z handed
          obtain ⟨rfl, -⟩ := handOver_ok handed
          exact absurd polled ((unstarted_iff.1 h).handOver handed).collect_ne_error
  · split at failed <;> simp at failed

end Exchange

namespace World

variable {σ : Type} {libraries : BridgeId → NativeLibrary σ} {engines : BridgeId → EngineHandle}
  {w w' : World σ}

/-- Whether somebody holds the future of a token. -/
def HasReceiver (w : World σ) (token : Token) : Prop :=
  ∃ future ∈ w.futures, future.call.token? = some token

theorem Sound.hasReceiver_iff (h : Sound engines w) (token : Token) :
    w.exchange.isAwaited token = true ↔ w.HasReceiver token := by
  have receivers := h.receivers token
  have member : token ∈ w.calls.filterMap Call.token? ↔ w.HasReceiver token := by
    simp [World.calls, HasReceiver, List.mem_filterMap]
  rw [← member, ← List.count_pos_iff, receivers]
  cases w.exchange.isAwaited token <;> simp

/-! ## One action -/

/-- What one action does to deliveries, and to those who hold futures. -/
structure Delivers (action : Action σ) (answer : Answer) (w w' : World σ) : Prop where
  /-- A delivery says whether somebody held the token's future, or got it in this very action. -/
  sends : ∃ new, w'.exchange.deliveries = new ++ w.exchange.deliveries ∧ ∀ delivery ∈ new,
    delivery.resumed = .delivered ↔
      w.HasReceiver delivery.token ∨ delivery.token = w.exchange.arena.nextToken
  /-- Who looks at a future sees what was delivered to its own token. -/
  polls : ∀ place passed, action = .poll place passed → ∃ future progress call,
    w.futures[place]? = some future ∧ answer = .progress progress ∧
      w'.futures = w.futures.set place { future with call := call } ∧
      w.exchange.Shown w'.exchange future.limit passed future.call progress call
  /-- A direct `resume` sends its outcome and says whether somebody held the future, or fails
  and changes nothing. -/
  resumes : ∀ token outcome, action = .resume token outcome →
    (∃ resumed, answer = .resumed (.ok resumed) ∧
      w'.exchange.deliveries = ⟨token, outcome, resumed⟩ :: w.exchange.deliveries ∧
      (resumed = .delivered ↔ w.HasReceiver token)) ∨
    ∃ violation, answer = .resumed (.error violation) ∧ w' = w
  /-- Only the first look at a future issues a token. -/
  issues : w'.exchange.arena.nextToken = w.exchange.arena.nextToken ∨
    ∃ place passed future bridge request, action = .poll place passed ∧
      w.futures[place]? = some future ∧ future.call = .unstarted bridge request
  /-- A future that is dropped is gone, and nothing is registered. -/
  drops : ∀ place, action = .drop place → w'.exchange.arena = w.exchange.arena ∧
    ∃ future, w.futures[place]? = some future ∧
      w'.futures = w.futures.set place { future with call := .gone }
  /-- A future that is gone stays so. -/
  gone : ∀ (place : Nat) (future : Future), w.futures[place]? = some future →
    future.call = .gone → w'.futures[place]? = some future

/-- An action that neither looks at futures nor drops them. -/
theorem Delivers.of_sends {action : Action σ} {answer : Answer} (h : Sound engines w)
    (h' : Sound engines w') (sends : w.exchange.Sends w'.exchange)
    (more : ∃ new, w'.futures = w.futures ++ new)
    (resumes : ∀ token outcome, action = .resume token outcome →
      (∃ resumed, answer = .resumed (.ok resumed) ∧
        w'.exchange.deliveries = ⟨token, outcome, resumed⟩ :: w.exchange.deliveries ∧
        (resumed = .delivered ↔ w.HasReceiver token)) ∨
      ∃ violation, answer = .resumed (.error violation) ∧ w' = w)
    (noPoll : ∀ place passed, action ≠ .poll place passed)
    (noDrop : ∀ place, action ≠ .drop place) : Delivers action answer w w' where
  sends := by
    obtain ⟨new, eq, told⟩ := sends.amid h'
    exact ⟨new, eq, fun delivery member => by
      rw [told delivery member, h.hasReceiver_iff]⟩
  polls place passed is := absurd is (noPoll place passed)
  resumes := resumes
  issues := .inl sends.next
  drops place is := absurd is (noDrop place)
  gone place future at_ _ := by
    obtain ⟨new, eq⟩ := more
    obtain ⟨bound, -⟩ := List.getElem?_eq_some_iff.1 at_
    rw [eq, List.getElem?_append_left bound, at_]

/-- A future that is gone stays in its place, if an action on it leaves it gone. -/
theorem set_of_gone {place other : Nat} {future found : Future} {call : Call}
    (at_ : w.futures[place]? = some future) (found_at : w.futures[other]? = some found)
    (gone : found.call = .gone) (stays : future.call = .gone → call = .gone) :
    (w.futures.set place { future with call := call })[other]? = some found := by
  obtain ⟨bound, -⟩ := List.getElem?_eq_some_iff.1 at_
  by_cases same : place = other
  · subst same
    obtain rfl : future = found := Option.some.inj (at_.symm.trans found_at)
    rw [List.getElem?_set_self bound, stays gone, ← gone]
  · rw [List.getElem?_set_ne same, found_at]

theorem Sound.poll_delivers {place : Nat} {passed : Bool} {future : Future} {progress : Progress}
    {call : Call} {x : Exchange σ} (h : Sound engines w) (at_ : w.futures[place]? = some future)
    (polled : w.exchange.pollWithin libraries w.inHand future.limit passed future.call
      = .ok (progress, call, x)) :
    Delivers (.poll place passed) (.progress progress) w
      { w with exchange := x, futures := w.futures.set place { future with call := call } } := by
  have shown := (h.at_future at_).pollWithin_shown polled
  refine ⟨?_, ?_, ?_, ?_, ?_, ?_⟩
  · obtain ⟨new, eq, told⟩ := (h.at_future at_).pollWithin_sends polled
    exact ⟨new, eq, fun delivery member => by rw [told delivery member, h.hasReceiver_iff]⟩
  · intro place' passed' is
    obtain ⟨rfl, rfl⟩ := Action.poll.inj is
    exact ⟨future, progress, call, at_, rfl, rfl, shown⟩
  · intro token outcome is
    simp at is
  · rcases Exchange.pollWithin_nextToken polled with same | ⟨bridge, request, unstarted⟩
    · exact .inl same
    · exact .inr ⟨place, passed, future, bridge, request, rfl, at_, unstarted⟩
  · intro place' is
    simp at is
  · intro other found found_at gone
    refine set_of_gone at_ found_at gone fun its => ?_
    rw [its] at shown
    cases shown with
    | gone => rfl
    | answered own => simp [Exchange.tokenFor] at own
    | waits own => simp [Exchange.tokenFor] at own
    | timedOut own => simp [Exchange.tokenFor] at own

theorem drop_delivers {place : Nat} {future : Future} (at_ : w.futures[place]? = some future) :
    Delivers (.drop place : Action σ) .done w
      { w with
        exchange := w.exchange.drop future.call
        futures := w.futures.set place { future with call := .gone } } := by
  have calm := Exchange.drop_calm future.call w.exchange
  refine ⟨?_, ?_, ?_, ?_, ?_, ?_⟩
  · exact ⟨[], calm.deliveries, fun _ member => absurd member List.not_mem_nil⟩
  · intro place' passed' is
    simp at is
  · intro token outcome is
    simp at is
  · exact .inl (congrArg Arena.nextToken calm.arena)
  · intro place' is
    obtain rfl := Action.drop.inj is
    exact ⟨calm.arena, future, at_, rfl⟩
  · intro other found found_at gone
    exact set_of_gone at_ found_at gone fun _ => rfl

theorem Sound.resume_delivers {token : Token} {outcome : Outcome}
    {result : Except Violation Resumed} {x : Exchange σ} (h : Sound engines w)
    (h' : Sound engines { w with exchange := x })
    (resumes : w.exchange.resume token outcome = (result, x)) :
    Delivers (.resume token outcome) (.resumed result) w { w with exchange := x } := by
  cases result with
  | error violation =>
    obtain rfl := Exchange.resume_error resumes
    exact .of_sends h h' (.silent rfl rfl rfl) ⟨[], (List.append_nil _).symm⟩
      (fun _ _ _ => .inr ⟨violation, rfl, rfl⟩) (by simp) (by simp)
  | ok resumed =>
    obtain ⟨sends, eq⟩ := Exchange.Books.resume_sends h resumes
    refine .of_sends h h' sends ⟨[], (List.append_nil _).symm⟩ (fun token' outcome' is => ?_)
      (by simp) (by simp)
    obtain ⟨rfl, rfl⟩ := Action.resume.inj is
    refine .inl ⟨resumed, rfl, eq, ?_⟩
    obtain ⟨new, eq', told⟩ := sends.log
    have front : new = [⟨token, outcome, resumed⟩] :=
      List.append_cancel_right (eq'.symm.trans eq)
    have := told ⟨token, outcome, resumed⟩ (by rw [front]; exact List.mem_singleton.2 rfl)
    rw [this, h.hasReceiver_iff]

/-- A stage of a callback sends what the callback has in its hand. -/
theorem Sound.advance_sends {place : Nat} {thread : ThreadId} {engine : BridgeId}
    {callback : Callback} {stage : Stage} {next : Option Stage} {x : Exchange σ}
    (h : Sound engines w)
    (at_ : w.tasks[place]? = some ⟨thread, engine, .callback callback stage⟩)
    (advanced : w.exchange.advance libraries callback stage = .ok (next, x)) :
    w.exchange.Sends x := by
  have before := h.at_task at_
  rw [Work.inHand?_callback] at before
  exact before.advance_sends advanced

/-- **What one action delivers, and to whom.** -/
theorem step_delivers {action : Action σ} {answer : Answer} (h : Sound engines w)
    (done : w.step libraries action = .ok (answer, w')) : Delivers action answer w w' := by
  have h' := step_sound h done
  cases step_ok done with
  | poll at_ polled => exact h.poll_delivers at_ polled
  | drop at_ => exact drop_delivers at_
  | resume resumes => exact h.resume_delivers h' resumes
  | start able =>
    exact .of_sends h h' (.silent rfl rfl rfl) ⟨_, rfl⟩ (by simp) (by simp) (by simp)
  | complete completed =>
    exact .of_sends h h' (Exchange.Books.complete_sends h completed) ⟨[], (List.append_nil _).symm⟩
      (by simp) (by simp) (by simp)
  | returns at_ advanced =>
    exact .of_sends h h' (h.advance_sends at_ advanced) ⟨[], (List.append_nil _).symm⟩ (by simp)
      (by simp) (by simp)
  | advances at_ advanced =>
    exact .of_sends h h' (h.advance_sends at_ advanced) ⟨[], (List.append_nil _).symm⟩ (by simp)
      (by simp) (by simp)
  | _ =>
    exact .of_sends h h' (.silent rfl rfl rfl) ⟨[], (List.append_nil _).symm⟩ (by simp) (by simp)
      (by simp)

/-- No action finds a call lost. -/
theorem step_error_isLost {action : Action σ} {violation : Violation} (h : Sound engines w)
    (failed : w.step libraries action = .error (.violation violation)) :
    violation.isLost = false := by
  cases step_aborts failed with
  | poll at_ polled => exact (h.at_future at_).pollWithin_error_isLost polled
  | complete completed => exact Exchange.complete_error_isLost completed
  | advance at_ advanced => exact Exchange.advance_error_isLost advanced

/-! ## Runs -/

theorem run_gone {place : Nat} {future : Future} {actions : List (Action σ)}
    {answers : List Answer} (h : Sound engines w) (at_ : w.futures[place]? = some future)
    (gone : future.call = .gone) (ran : run libraries actions w = .ok (answers, w')) :
    w'.futures[place]? = some future := by
  have keeps {w w' : World σ} {action : Action σ} {answer : Answer}
      (h : Sound engines w ∧ w.futures[place]? = some future) (_ : True)
      (stepped : w.step libraries action = .ok (answer, w')) :
      Sound engines w' ∧ w'.futures[place]? = some future :=
    ⟨step_sound h.1 stepped, (step_delivers h.1 stepped).gone place future h.2 gone⟩
  exact (run_induction keeps ⟨h, at_⟩ (fun _ _ => trivial) ran).2

/-- What is true of deliveries wherever a run leads. -/
structure ExactlyOnce (libraries : BridgeId → NativeLibrary σ) (w : World σ) : Prop where
  /-- No token was sent two outcomes. -/
  once : w.exchange.sent.Nodup
  /-- Only tokens that were issued were sent to. -/
  issued : ∀ token ∈ w.exchange.sent, 1 ≤ token ∧ token < w.exchange.arena.nextToken
  /-- Whatever is done next is done truly. -/
  delivers : ∀ action answer w', w.step libraries action = .ok (answer, w') →
    Delivers action answer w w'
  /-- No call is found to be retired without an answer. -/
  notLost : ∀ action token, w.step libraries action ≠ .error (.violation (.completionLost token))
  /-- A future that is dropped before it was looked at is never registered. -/
  dropped : ∀ (place : Nat) (future : Future) (bridge : BridgeId) (request : String),
    w.futures[place]? = some future → future.call = .unstarted bridge request →
    ∀ answer w', w.step libraries (.drop place) = .ok (answer, w') →
      w'.exchange.arena = w.exchange.arena ∧
      ∀ actions answers w'', run libraries actions w' = .ok (answers, w'') →
        w''.futures[place]? = some { future with call := .gone }

/-- **Exactly once, and without cross-talk.** -/
theorem delivers_exactly_once (native : σ) (engines : BridgeId → EngineHandle)
    (actions : List (Action σ)) (answers : List Answer) (w : World σ)
    (ran : run libraries actions (initial native engines) = .ok (answers, w)) :
    ExactlyOnce libraries w := by
  have sound := run_sound (initial_sound native engines) ran
  refine ⟨?_, ?_, fun action answer w' stepped => step_delivers sound stepped, ?_, ?_⟩
  · refine List.nodup_iff_count.2 ?_
    intro token
    have := sound.once token
    omega
  · intro token member
    have := List.count_pos_iff.2 member
    exact (sound.issued token).1 (by omega)
  · intro action token failed
    have := step_error_isLost sound failed
    simp [Violation.isLost] at this
  · intro place future bridge request at_ unstarted answer w' stepped
    obtain ⟨arena, future', at', futures⟩ := (step_delivers sound stepped).drops place rfl
    obtain rfl : future = future' := Option.some.inj (at_.symm.trans at')
    refine ⟨arena, ?_⟩
    intro actions answers w'' ran'
    obtain ⟨bound, -⟩ := List.getElem?_eq_some_iff.1 at_
    exact run_gone (step_sound sound stepped)
      (by rw [futures, List.getElem?_set_self bound]) rfl ran'

/-- Of two calls, one is resumed directly and one called back for after it was dropped. -/
def twoCalls : List (Action Script) :=
  [.start 0 "first" none, .poll 0 false, .start 0 "second" none, .poll 1 false, .drop 1,
    .resume 1 (.ok "answer"), .complete ⟨0, 2, .invalidArgument, none⟩, .poll 0 false]

theorem delivers_exactly_once_twoCalls : ∃ answers w,
    run (fun _ => Script.library) twoCalls (initial .empty fun _ => .owned 1) = .ok (answers, w) ∧
      w.exchange.deliveries.map (fun delivery => (delivery.token, delivery.resumed))
        = [(2, .abandoned), (1, .delivered)] ∧
      ExactlyOnce (fun _ => Script.library) w :=
  ⟨_, _, rfl, rfl, delivers_exactly_once .empty (fun _ => .owned 1) twoCalls _ _ rfl⟩

end World

end EngineBridge
