import EngineBridge.Proofs.Calls.Books
/-!
# What the operations on an exchange do

For each operation, what its success means in terms of smaller ones, and that it keeps the
books.  A poll or a callback is a row of the steps of `Books`, so its lemma is one as well.  What
every callback keeps, and what looking at a call keeps, follows from what their parts keep
(`completeAll_keeps`, `pollWithin_keeps`).
-/

namespace EngineBridge.Exchange

variable {σ : Type} {libraries : BridgeId → NativeLibrary σ} {engines : BridgeId → EngineHandle}
  {x x' : Exchange σ} {calls : List Call} {hand : List Token} {held : BridgeId → Nat}

/-! ## Resuming -/

theorem resume_eq (token : Token) (outcome : Outcome) (x : Exchange σ) :
    x.resume token outcome = match x.takeSlot token with
      | .error violation => (.error violation, x)
      | .ok (bridge, y) =>
        (.ok ((y.lower bridge).send token outcome).1,
          ((y.lower bridge).send token outcome).2.release bridge) := by
  simp only [resume, Arena.retire, takeSlot, Arena.removeSlot]
  cases x.arena.find? token <;> rfl

/-- What a successful `resume` does. -/
theorem resume_ok {token : Token} {outcome : Outcome} {resumed : Resumed}
    (h : x.resume token outcome = (.ok resumed, x')) :
    ∃ bridge y, x.takeSlot token = .ok (bridge, y) ∧
      resumed = ((y.lower bridge).send token outcome).1 ∧
      x' = ((y.lower bridge).send token outcome).2.release bridge := by
  rw [resume_eq] at h
  cases taken : x.takeSlot token with
  | error violation => simp [taken] at h
  | ok state =>
    obtain ⟨bridge, y⟩ := state
    simp only [taken, Prod.mk.injEq, Except.ok.injEq] at h
    exact ⟨bridge, y, rfl, h.1.symm, h.2.symm⟩

/-- A `resume` that fails leaves everything as it was. -/
theorem resume_error {token : Token} {outcome : Outcome} {violation : Violation}
    (h : x.resume token outcome = (.error violation, x')) : x' = x := by
  rw [resume_eq] at h
  cases taken : x.takeSlot token with
  | error violation => simp only [taken, Prod.mk.injEq] at h; exact h.2.symm
  | ok state => simp [taken] at h

theorem Books.lower (h : Books engines x calls hand held) (bridge : BridgeId) :
    Books engines (x.lower bridge) calls hand held := h.transfer rfl rfl rfl rfl rfl

theorem Books.resume {token : Token} {outcome : Outcome} {resumed : Resumed}
    (h : Books engines x calls hand held) (done : x.resume token outcome = (.ok resumed, x')) :
    Books engines x' calls hand held := by
  obtain ⟨bridge, y, taken, -, rfl⟩ := resume_ok done
  exact (((h.takeSlot taken).lower bridge).send outcome).release

/-! ## Callbacks -/

theorem lookUp_ok {token : Token} {bridge : BridgeId} {y : Exchange σ}
    (h : x.lookUp token = .ok (bridge, y)) :
    x.arena.find? token = some bridge ∧ y = x.retain bridge := by
  unfold lookUp at h
  cases found : x.arena.find? token with
  | none => simp [found] at h
  | some b =>
    simp only [found, Except.ok.injEq, Prod.mk.injEq] at h
    obtain ⟨rfl, rfl⟩ := h
    exact ⟨rfl, rfl⟩

theorem Books.lookUp {token : Token} {bridge : BridgeId} (h : Books engines x calls hand held)
    (done : x.lookUp token = .ok (bridge, x')) :
    Books engines x' calls hand (bump held bridge) := by
  obtain ⟨found, rfl⟩ := lookUp_ok done
  exact h.retain (h.alive_of_slot (lookup_mem found))

theorem Books.enter (h : Books engines x calls hand held) (token : Token) :
    Books engines (x.enter token) calls hand held := h.transfer rfl rfl rfl rfl rfl

theorem Books.native (h : Books engines x calls hand held) (native : σ) :
    Books engines { x with native := native } calls hand held := h.transfer rfl rfl rfl rfl rfl

/-- What a callback does that ends well. -/
theorem complete_ok {callback : Callback} (h : x.complete libraries callback = .ok x') :
    ∃ bridge y outcome native resumed,
      (x.enter callback.context).lookUp callback.context = .ok (bridge, y) ∧
      classify (libraries bridge) callback y.native = (.ok outcome, native) ∧
      (release bridge { y with native := native }).resume callback.context outcome
        = (.ok resumed, x') := by
  unfold complete at h
  cases found : (x.enter callback.context).lookUp callback.context with
  | error violation => simp [found] at h
  | ok state =>
    obtain ⟨bridge, y⟩ := state
    simp only [found] at h
    split at h
    · simp at h
    · rename_i outcome native classified
      split at h
      · simp at h
      · rename_i resumed x'' resumes
        simp only [Except.ok.injEq] at h
        subst h
        exact ⟨bridge, y, outcome, native, resumed, rfl, classified, resumes⟩

theorem Books.complete {callback : Callback} (h : Books engines x calls hand held)
    (done : x.complete libraries callback = .ok x') : Books engines x' calls hand held := by
  obtain ⟨bridge, y, outcome, native, resumed, found, -, resumes⟩ := complete_ok done
  exact ((((h.enter callback.context).lookUp found).native native).release).resume resumes

/-- What every callback keeps, callbacks one after the other keep. -/
theorem completeAll_keeps {P : Exchange σ → Prop} {callbacks : List Callback}
    (keeps : ∀ callback ∈ callbacks, ∀ {y z : Exchange σ},
      P y → y.complete libraries callback = .ok z → P z) :
    ∀ {x : Exchange σ}, P x → completeAll libraries callbacks x = .ok x' → P x' := by
  induction callbacks with
  | nil =>
    intro x h done
    simp only [completeAll, Except.ok.injEq] at done
    exact done ▸ h
  | cons callback callbacks ih =>
    intro x h done
    unfold completeAll at done
    cases completed : x.complete libraries callback with
    | error violation => simp [completed] at done
    | ok y =>
      simp only [completed] at done
      have first : P y := keeps callback List.mem_cons_self h completed
      exact ih (fun later member => keeps later (List.mem_cons_of_mem _ member)) first done

theorem Books.completeAll {callbacks : List Callback} (h : Books engines x calls hand held)
    (done : completeAll libraries callbacks x = .ok x') : Books engines x' calls hand held :=
  completeAll_keeps (fun _ _ => Books.complete) h done

end EngineBridge.Exchange

namespace EngineBridge

/-- One more at a place, if there is one. -/
def bumpAny (count : Nat → Nat) : Option Nat → Nat → Nat
  | none => count
  | some place => bump count place

theorem bumpAny_apply (count : Nat → Nat) (place : Option Nat) (i : Nat) :
    bumpAny count place i = count i + place.toList.count i := by
  cases place with
  | none => simp [bumpAny]
  | some place =>
    have h : place = i ↔ i = place := eq_comm
    simp [bumpAny, bump_apply, List.count_cons, h]

namespace Stage

/-- The bridge that a callback holds, by itself or by the slot in its hand. -/
def bridge? : Stage → Option BridgeId
  | reading bridge => some bridge
  | freeing bridge _ _ => some bridge
  | leaving bridge _ => some bridge
  | lowering bridge _ => some bridge
  | sending bridge _ => some bridge
  | closing bridge => some bridge
  | _ => none

/-- The token whose slot is in the hand of the callback for it. -/
def inHand? (token : Token) : Stage → Option Token
  | lowering .. => some token
  | sending .. => some token
  | _ => none

end Stage

namespace Exchange

variable {σ : Type} {libraries : BridgeId → NativeLibrary σ} {engines : BridgeId → EngineHandle}
  {x x' : Exchange σ} {calls : List Call} {hand : List Token} {held : BridgeId → Nat}

/-- What one stage of a callback does. -/
inductive Advances (libraries : BridgeId → NativeLibrary σ) (callback : Callback) (x : Exchange σ) :
    Stage → Option Stage → Exchange σ → Prop where
  | looks {bridge : BridgeId} (found : x.arena.find? callback.context = some bridge) :
    Advances libraries callback x .looking (some (.reading bridge)) (x.retain bridge)
  | reads {bridge : BridgeId} {buffer : Option Buffer} {outcome : Outcome} {native : σ}
    (read : (libraries bridge).readReport callback x.native = (.ok (buffer, outcome), native)) :
    Advances libraries callback x (.reading bridge) (some (.freeing bridge buffer outcome))
      { x with native := native }
  | frees (bridge : BridgeId) (buffer : Option Buffer) (outcome : Outcome) :
    Advances libraries callback x (.freeing bridge buffer outcome) (some (.leaving bridge outcome))
      { x with native := (libraries bridge).releaseAny buffer x.native }
  | leaves (bridge : BridgeId) (outcome : Outcome) :
    Advances libraries callback x (.leaving bridge outcome) (some (.retiring outcome))
      (x.release bridge)
  | retires {bridge : BridgeId} {y : Exchange σ} (outcome : Outcome)
    (taken : x.takeSlot callback.context = .ok (bridge, y)) :
    Advances libraries callback x (.retiring outcome) (some (.lowering bridge outcome)) y
  | lowers (bridge : BridgeId) (outcome : Outcome) :
    Advances libraries callback x (.lowering bridge outcome) (some (.sending bridge outcome))
      (x.lower bridge)
  | sends (bridge : BridgeId) (outcome : Outcome) :
    Advances libraries callback x (.sending bridge outcome) (some (.closing bridge))
      (x.send callback.context outcome).2
  | closes (bridge : BridgeId) :
    Advances libraries callback x (.closing bridge) (some .returning) (x.release bridge)
  | returns : Advances libraries callback x .returning none x

theorem advance_ok {callback : Callback} {stage : Stage} {next : Option Stage}
    (done : x.advance libraries callback stage = .ok (next, x')) :
    Advances libraries callback x stage next x' := by
  cases stage with
  | looking =>
    simp only [Exchange.advance] at done
    cases found : x.lookUp callback.context with
    | error violation => simp [found] at done
    | ok state =>
      simp only [found, Except.ok.injEq, Prod.mk.injEq] at done
      obtain ⟨rfl, rfl⟩ := done
      obtain ⟨at_, same⟩ := lookUp_ok found
      rw [same]
      exact .looks at_
  | reading bridge =>
    simp only [Exchange.advance] at done
    split at done
    · simp at done
    · rename_i buffer outcome native read
      cases done
      exact .reads read
  | retiring outcome =>
    simp only [Exchange.advance] at done
    cases taken : x.takeSlot callback.context with
    | error violation => simp [taken] at done
    | ok state =>
      simp only [taken, Except.ok.injEq, Prod.mk.injEq] at done
      obtain ⟨rfl, rfl⟩ := done
      exact .retires outcome taken
  | _ =>
    simp only [Exchange.advance, Except.ok.injEq, Prod.mk.injEq] at done
    obtain ⟨rfl, rfl⟩ := done
    constructor

/-- A stage of a callback keeps the books, with what the callback holds before and after. -/
theorem Books.advance {callback : Callback} {stage : Stage} {next : Option Stage}
    (h : Books engines x calls ((stage.inHand? callback.context).toList ++ hand)
      (bumpAny held stage.bridge?))
    (done : x.advance libraries callback stage = .ok (next, x')) :
    Books engines x' calls ((next.bind (Stage.inHand? callback.context)).toList ++ hand)
      (bumpAny held (next.bind Stage.bridge?)) := by
  cases advance_ok done with
  | looks found => exact h.retain (h.alive_of_slot (lookup_mem found))
  | reads read => exact h.native _
  | frees bridge buffer outcome => exact h.native _
  | leaves bridge outcome => exact h.release
  | retires outcome taken => exact h.takeSlot taken
  | lowers bridge outcome => exact h.lower bridge
  | sends bridge outcome => exact h.send outcome
  | closes bridge => exact h.release
  | returns => exact h

/-! ## Polling -/

/-- The exchange when an engine has taken a request, and has not called back yet. -/
def handed (libraries : BridgeId → NativeLibrary σ) (bridge : BridgeId) (text : CText)
    (x : Exchange σ) : Exchange σ :=
  { (x.register bridge).2 with
    native := ((libraries bridge).execute x.arena.nextToken text x.native).2
    requests := ⟨x.arena.nextToken, bridge, text⟩ :: x.requests }

/-- Handing a request over is to process the callbacks that the engine makes at once. -/
theorem handOver_eq (libraries : BridgeId → NativeLibrary σ) (bridge : BridgeId) (text : CText)
    (x : Exchange σ) :
    x.handOver libraries bridge text
      = match completeAll libraries ((libraries bridge).execute x.arena.nextToken text x.native).1
          (x.handed libraries bridge text) with
        | .error violation => .error violation
        | .ok y => .ok (x.arena.nextToken, y) := rfl

theorem handOver_ok {bridge : BridgeId} {text : CText} {token : Token}
    (h : x.handOver libraries bridge text = .ok (token, x')) :
    token = x.arena.nextToken ∧
      completeAll libraries ((libraries bridge).execute x.arena.nextToken text x.native).1
        (x.handed libraries bridge text) = .ok x' := by
  rw [handOver_eq] at h
  split at h
  · simp at h
  · rename_i y completed
    cases h
    exact ⟨rfl, completed⟩

theorem handOver_error {bridge : BridgeId} {text : CText} {violation : Violation}
    (h : x.handOver libraries bridge text = .error violation) :
    completeAll libraries ((libraries bridge).execute x.arena.nextToken text x.native).1
      (x.handed libraries bridge text) = .error violation := by
  rw [handOver_eq] at h
  split at h
  · rename_i failed
    simp only [Except.error.injEq] at h
    rw [failed, h]
  · simp at h

theorem Books.handed {bridge : BridgeId} (h : Books engines x calls hand (bump held bridge))
    (text : CText) :
    Books engines (x.handed libraries bridge text) (.started bridge x.arena.nextToken :: calls)
      hand held := h.register.transfer rfl rfl rfl rfl rfl

theorem Books.handOver {bridge : BridgeId} {text : CText} {token : Token}
    (h : Books engines x calls hand (bump held bridge))
    (done : x.handOver libraries bridge text = .ok (token, x')) :
    Books engines x' (.started bridge x.arena.nextToken :: calls) hand held :=
  (h.handed text).completeAll (handOver_ok done).2

/-- Nothing but receiving ends and owners has changed. -/
structure Calm (x x' : Exchange σ) : Prop where
  native : x'.native = x.native
  arena : x'.arena = x.arena
  requests : x'.requests = x.requests
  deliveries : x'.deliveries = x.deliveries

theorem Calm.refl (x : Exchange σ) : Calm x x := ⟨rfl, rfl, rfl, rfl⟩

theorem Calm.trans {y : Exchange σ} (h : Calm x y) (h' : Calm y x') : Calm x x' where
  native := h'.native.trans h.native
  arena := h'.arena.trans h.arena
  requests := h'.requests.trans h.requests
  deliveries := h'.deliveries.trans h.deliveries

theorem drop_calm (call : Call) (x : Exchange σ) : Calm x (x.drop call) := by
  cases call <;> exact ⟨rfl, rfl, rfl, rfl⟩

/-- What looking at a started call does. -/
inductive Collects (bridge : BridgeId) (token : Token) (x : Exchange σ) :
    Progress → Call → Exchange σ → Prop where
  | ready {outcome : Outcome} (holds : x.mailboxes token = .holding outcome) :
    Collects bridge token x (.ready outcome) .gone (x.drop (.started bridge token))
  | pending (lacks : ∀ outcome, x.mailboxes token ≠ .holding outcome) :
    Collects bridge token x .pending (.started bridge token) x

theorem collect_ok {bridge : BridgeId} {token : Token} {progress : Progress} {call : Call}
    (done : x.collect bridge token hand = .ok (progress, call, x')) :
    Collects bridge token x progress call x' := by
  unfold collect at done
  cases mailbox : x.mailboxes token with
  | holding outcome =>
    simp only [mailbox] at done
    cases done
    exact .ready mailbox
  | waiting =>
    simp only [mailbox] at done
    split at done
    · simp at done
    · cases done
      exact .pending (by simp [mailbox])
  | closed =>
    simp only [mailbox] at done
    cases done
    exact .pending (by simp [mailbox])

theorem collect_calm {bridge : BridgeId} {token : Token} {progress : Progress} {call : Call}
    (done : x.collect bridge token hand = .ok (progress, call, x')) :
    Calm x x' ∧ (call = .gone ∨ call = .started bridge token) := by
  cases collect_ok done with
  | ready holds => exact ⟨drop_calm _ x, .inl rfl⟩
  | pending lacks => exact ⟨.refl x, .inr rfl⟩

/-- What looking at a call does. -/
inductive Looks (libraries : BridgeId → NativeLibrary σ) (hand : List Token) (x : Exchange σ) :
    Call → Progress → Call → Exchange σ → Prop where
  | gone : Looks libraries hand x .gone .gone .gone x
  | started {bridge : BridgeId} {token : Token} {progress : Progress} {call' : Call}
    {x' : Exchange σ} (collected : x.collect bridge token hand = .ok (progress, call', x')) :
    Looks libraries hand x (.started bridge token) progress call' x'
  /-- The request is no C text. -/
  | refused {bridge : BridgeId} {request : String} {error : BridgeError}
    (refusal : toCText request = .error error) :
    Looks libraries hand x (.unstarted bridge request) (.ready (.error error)) .gone
      (x.drop (.unstarted bridge request))
  /-- The request is handed over, and the engine makes its callbacks. -/
  | handed {bridge : BridgeId} {request : String} {text : CText} {y x' : Exchange σ}
    {progress : Progress} {call' : Call} (sent : toCText request = .ok text)
    (handed : x.handOver libraries bridge text = .ok (x.arena.nextToken, y))
    (collected : y.collect bridge x.arena.nextToken hand = .ok (progress, call', x')) :
    Looks libraries hand x (.unstarted bridge request) progress call' x'

theorem pollAmid_ok {call call' : Call} {progress : Progress}
    (done : x.pollAmid libraries hand call = .ok (progress, call', x')) :
    Looks libraries hand x call progress call' x' := by
  cases call with
  | gone =>
    cases done
    exact .gone
  | started bridge token => exact .started done
  | unstarted bridge request =>
    simp only [pollAmid] at done
    cases text : toCText request with
    | error error =>
      simp only [text] at done
      cases done
      exact .refused text
    | ok sent =>
      simp only [text] at done
      split at done
      · simp at done
      · rename_i token y handed
        obtain rfl := (handOver_ok handed).1
        exact .handed text handed done

/-- Looking at a started call: either its outcome has arrived, or it waits for one that is
still to be sent. -/
theorem Books.collect_eq {bridge : BridgeId} {token : Token}
    (h : Books engines x (.started bridge token :: calls) hand held) :
    (∃ outcome, ⟨token, outcome, .delivered⟩ ∈ x.deliveries ∧
      x.collect bridge token hand = .ok (.ready outcome, .gone, (x.close token).release bridge)) ∨
    (token ∉ x.sent ∧
      x.collect bridge token hand = .ok (.pending, .started bridge token, x)) := by
  have awaited := h.awaited_of_started
  cases mailbox : x.mailboxes token with
  | closed => simp [isAwaited, mailbox, Mailbox.isOpen] at awaited
  | holding outcome =>
    refine .inl ⟨outcome, h.holding token outcome mailbox, ?_⟩
    simp [collect, mailbox]
  | waiting =>
    have place := h.waiting token mailbox
    have once := h.once token
    refine .inr ⟨fun member => ?_, ?_⟩
    · have := List.count_pos_iff.2 member
      omega
    · have somewhere : ¬ ((x.arena.find? token).isNone ∧ token ∉ hand) := by
        rintro ⟨none, absent⟩
        have := lookup_eq_none_iff.1 (Option.isNone_iff_eq_none.1 none)
        have := List.count_eq_zero.2 this
        have := List.count_eq_zero.2 absent
        simp only [tokens] at place
        omega
      simp only [collect, mailbox, if_neg somewhere]

/-- The token of a call that is looked at: its own, or the next one if it is handed over. -/
def tokenFor (x : Exchange σ) : Call → Option Token
  | .gone => none
  | .started _ token => some token
  | .unstarted _ request =>
    match toCText request with
    | .ok _ => some x.arena.nextToken
    | .error _ => none

/-- What looking at a call shows. -/
inductive Looked (x x' : Exchange σ) : Call → Progress → Call → Prop where
  /-- There was nothing left to see. -/
  | gone (same : x' = x) : Looked x x' .gone .gone .gone
  /-- The request is no C text. -/
  | refused {bridge : BridgeId} {request : String} {error : BridgeError}
    (refusal : toCText request = .error error) (same : x' = x.release bridge) :
    Looked x x' (.unstarted bridge request) (.ready (.error error)) .gone
  /-- The outcome of the call's own token was delivered. -/
  | answered {call : Call} {token : Token} {outcome : Outcome} (own : x.tokenFor call = some token)
    (delivered : ⟨token, outcome, .delivered⟩ ∈ x'.deliveries) :
    Looked x x' call (.ready outcome) .gone
  /-- Nothing was sent to the call's own token. -/
  | waits {call : Call} {bridge : BridgeId} {token : Token} (own : x.tokenFor call = some token)
    (of : call.bridge? = some bridge) (unsent : token ∉ x'.sent) :
    Looked x x' call .pending (.started bridge token)

/-- Looking at a call keeps the books, and shows what the deliveries say. -/
theorem Books.pollAmid {call call' : Call} {progress : Progress}
    (h : Books engines x (call :: calls) hand held)
    (done : x.pollAmid libraries hand call = .ok (progress, call', x')) :
    Books engines x' (call' :: calls) hand held ∧ Looked x x' call progress call' := by
  have collected {y : Exchange σ} {bridge : BridgeId} {token : Token}
      (h : Books engines y (.started bridge token :: calls) hand held)
      (done : y.collect bridge token hand = .ok (progress, call', x'))
      (own : x.tokenFor call = some token) (of : call.bridge? = some bridge) :
      Books engines x' (call' :: calls) hand held ∧ Looked x x' call progress call' := by
    rcases h.collect_eq with ⟨outcome, delivered, ready⟩ | ⟨unsent, pending⟩
    · rw [ready] at done
      cases done
      exact ⟨gone_iff.2 h.close.release, .answered own delivered⟩
    · rw [pending] at done
      cases done
      exact ⟨h, .waits own of unsent⟩
  cases pollAmid_ok done with
  | gone => exact ⟨h, .gone rfl⟩
  | started done => exact collected h done rfl rfl
  | refused refusal => exact ⟨gone_iff.2 (unstarted_iff.1 h).release, .refused refusal rfl⟩
  | handed sent handed done =>
    exact collected ((unstarted_iff.1 h).handOver handed) done (by simp [tokenFor, sent]) rfl

/-- A dropped call is finished, and its bridge let go. -/
theorem Books.drop {call : Call} (h : Books engines x (call :: calls) hand held) :
    Books engines (x.drop call) calls hand held := by
  cases call with
  | gone => exact gone_iff.1 h
  | unstarted bridge request => exact (unstarted_iff.1 h).release
  | started bridge token => exact h.close.release

/-- A call with a limit is looked at, and dropped if the limit has passed and nothing arrived. -/
theorem pollWithin_ok {limit : Option Duration} {passed : Bool} {call call' : Call}
    {progress : Progress}
    (h : x.pollWithin libraries hand limit passed call = .ok (progress, call', x')) :
    ∃ seen call'' y, x.pollAmid libraries hand call = .ok (seen, call'', y) ∧
      ((progress = seen ∧ call' = call'' ∧ x' = y ∧
          (seen = .pending → limit = none ∨ passed = false)) ∨
        ∃ span, seen = .pending ∧ limit = some span ∧ passed = true ∧
          progress = .ready (.error (.timedOut span)) ∧ call' = .gone ∧ x' = y.drop call'') := by
  unfold pollWithin at h
  cases polled : x.pollAmid libraries hand call with
  | error violation => simp [polled] at h
  | ok state =>
    obtain ⟨seen, call'', y⟩ := state
    simp only [polled] at h
    refine ⟨seen, call'', y, rfl, ?_⟩
    split at h
    · rename_i span
      simp only [Except.ok.injEq, Prod.mk.injEq] at h
      exact .inr ⟨span, rfl, rfl, rfl, h.1.symm, h.2.1.symm, h.2.2.symm⟩
    · rename_i other
      simp only [Except.ok.injEq, Prod.mk.injEq] at h
      refine .inl ⟨h.1.symm, h.2.1.symm, h.2.2.symm, ?_⟩
      intro pending
      cases limit with
      | none => exact .inl rfl
      | some span =>
        cases passed with
        | false => exact .inr rfl
        | true => exact absurd rfl (other span pending rfl)

/-- A limit that has passed drops the call that was looked at, and does nothing else. -/
theorem pollWithin_calmly {limit : Option Duration} {passed : Bool} {call call' : Call}
    {progress : Progress}
    (h : x.pollWithin libraries hand limit passed call = .ok (progress, call', x')) :
    ∃ seen call'' y, x.pollAmid libraries hand call = .ok (seen, call'', y) ∧ Calm y x' := by
  obtain ⟨seen, call'', y, polled, ended⟩ := pollWithin_ok h
  refine ⟨seen, call'', y, polled, ?_⟩
  rcases ended with ⟨-, -, rfl, -⟩ | ⟨span, -, -, -, -, -, rfl⟩
  · exact .refl x'
  · exact drop_calm call'' y

/-- What handing a request over, callbacks and dropped calls keep, looking at a call keeps. -/
theorem pollWithin_keeps {P : Exchange σ → Prop} {limit : Option Duration} {passed : Bool}
    {call call' : Call} {progress : Progress}
    (drops : ∀ (call : Call) {y : Exchange σ}, P y → P (y.drop call))
    (hands : ∀ (bridge : BridgeId) (text : CText), P x → P (x.handed libraries bridge text))
    (completes : ∀ bridge text, ∀ callback ∈ ((libraries bridge).execute x.arena.nextToken text
      x.native).1, ∀ {y z : Exchange σ}, P y → y.complete libraries callback = .ok z → P z)
    (h : P x)
    (done : x.pollWithin libraries hand limit passed call = .ok (progress, call', x')) : P x' := by
  have collects {y z : Exchange σ} {bridge : BridgeId} {token : Token} {progress : Progress}
      {call' : Call} (before : P y)
      (done : y.collect bridge token hand = .ok (progress, call', z)) : P z := by
    cases collect_ok done with
    | ready holds => exact drops _ before
    | pending lacks => exact before
  obtain ⟨seen, call'', y, polled, ended⟩ := pollWithin_ok done
  have looked : P y := by
    cases pollAmid_ok polled with
    | gone => exact h
    | started collected => exact collects h collected
    | refused refusal => exact drops _ h
    | handed sent handed collected =>
      have completed := (handOver_ok handed).2
      exact collects (completeAll_keeps (completes _ _) (hands _ _ h) completed) collected
  rcases ended with ⟨-, -, rfl, -⟩ | ⟨span, -, -, -, -, -, rfl⟩
  · exact looked
  · exact drops call'' looked

theorem Books.pollWithin {limit : Option Duration} {passed : Bool} {call call' : Call}
    {progress : Progress} (h : Books engines x (call :: calls) hand held)
    (done : x.pollWithin libraries hand limit passed call = .ok (progress, call', x')) :
    Books engines x' (call' :: calls) hand held := by
  obtain ⟨seen, call'', y, polled, ended | ended⟩ := pollWithin_ok done
  · obtain ⟨-, rfl, rfl, -⟩ := ended
    exact (h.pollAmid polled).1
  · obtain ⟨span, -, -, -, -, rfl, rfl⟩ := ended
    exact gone_iff.2 (h.pollAmid polled).1.drop

end Exchange

end EngineBridge
