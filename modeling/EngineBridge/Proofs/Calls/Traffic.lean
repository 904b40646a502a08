import EngineBridge.Proofs.Calls.Accounts
/-!
# The count of calls in flight, at every moment: `Bridge::in_flight`

Threads that register and resume calls come between each other's steps.  Then the calls in flight
of a bridge are its slots, the calls that are counted and have no slot yet, and the calls that have
no slot any more and are still counted (`in_flight_tells_truth`).  A count is therefore not zero
when it is about to be lowered.

What carries this is that a token is in one place: under a slot, or with a thread that is about to
put the slot in or has removed it.  So a thread that removes a slot removes that one only.
-/

namespace EngineBridge

namespace Point

/-- The slot that is counted and not in the arena. -/
def moving : Point → List (Token × BridgeId)
  | raised _ bridge token => [(token, bridge)]
  | removed token bridge _ => [(token, bridge)]
  | _ => []

/-- The token that is issued and not counted. -/
def fresh : Point → List Token
  | issued _ _ token => [token]
  | _ => []

end Point

/-- The slot that a thread has in hand. -/
def Passage.moving (passage : Passage) : List (Token × BridgeId) := passage.point.moving

/-- The token that a thread has not counted. -/
def Passage.fresh (passage : Passage) : List Token := passage.point.fresh

namespace Exchange

variable {σ : Type} {libraries : BridgeId → NativeLibrary σ} {x x' : Exchange σ}
  {moving moving' : List (Token × BridgeId)} {fresh fresh' : List Token} {token : Token}
  {bridge : BridgeId}

/-! ## The steps in a row -/

/-- All steps of registering in a row register the call. -/
theorem passMany_issued (future : Nat) (bridge : BridgeId) (x : Exchange σ) :
    passMany 2 (some (.issued future bridge (x.issue bridge).1), (x.issue bridge).2) =
      (none, (x.register bridge).2) := rfl

/-- All steps of resuming in a row resume the call. -/
theorem passMany_removed (taken : x.takeSlot token = .ok (bridge, x')) (outcome : Outcome) :
    passMany 3 (some (.removed token bridge outcome), x') = (none, (x.resume token outcome).2) := by
  rw [resume_eq, taken]
  rfl

/-! ## Tokens and counts -/

/-- In how many places a token is. -/
def places (x : Exchange σ) (moving : List (Token × BridgeId)) (fresh : List Token)
    (token : Token) : Nat :=
  x.tokens.count token + (moving.map Prod.fst).count token + fresh.count token

/-- What holds of an exchange, of the slots that threads have in hand and of the tokens that they
have not counted. -/
structure Tallies (x : Exchange σ) (moving : List (Token × BridgeId)) (fresh : List Token) :
    Prop where
  flies : x.Flies (moving.map Prod.snd)
  once : ∀ token, x.places moving fresh token ≤ 1
  issued : ∀ token : Nat, 0 < x.places moving fresh token → 1 ≤ token ∧ token < x.arena.nextToken
  first : (1 : Nat) ≤ x.arena.nextToken

namespace Tallies

theorem initial (native : σ) (engines : BridgeId → EngineHandle) :
    Tallies (Exchange.initial native engines) [] [] where
  flies _ := rfl
  once token := by simp [places, tokens, Exchange.initial, Arena.initial]
  issued token := by simp [places, tokens, Exchange.initial, Arena.initial]
  first := Nat.le_refl _

/-- Only the places of tokens matter, and what is in fewer places is in order too. -/
theorem of_places_le (h : x.Tallies moving fresh) (flies : x'.Flies (moving'.map Prod.snd))
    (next : x'.arena.nextToken = x.arena.nextToken)
    (fewer : ∀ token, x'.places moving' fresh' token ≤ x.places moving fresh token) :
    x'.Tallies moving' fresh' where
  flies := flies
  once token := Nat.le_trans (fewer token) (h.once token)
  issued token placed := next ▸ h.issued token (Nat.lt_of_lt_of_le placed (fewer token))
  first := next ▸ h.first

theorem same (h : x.Tallies moving fresh) (arena : x'.arena = x.arena) :
    x'.Tallies moving fresh :=
  h.of_places_le (h.flies.same arena) (by rw [arena]) fun token => Nat.le_of_eq (by
    rw [places, tokens, arena, places, tokens])

theorem reorder (h : x.Tallies moving fresh) (movingPerm : moving.Perm moving')
    (freshPerm : fresh.Perm fresh') : x.Tallies moving' fresh' :=
  h.of_places_le (h.flies.reorder (movingPerm.map Prod.snd)) rfl fun token => Nat.le_of_eq (by
    rw [places, places, (movingPerm.map Prod.fst).count_eq, freshPerm.count_eq])

/-! ### Registering -/

/-- A token is issued, which is in no place. -/
theorem issue (h : x.Tallies moving fresh) (bridge : BridgeId) :
    (x.issue bridge).2.Tallies moving ((x.issue bridge).1 :: fresh) := by
  have next : (x.issue bridge).2.arena.nextToken = x.arena.nextToken + 1 := rfl
  have absent : x.places moving fresh x.arena.nextToken = 0 := by
    by_contra placed
    exact absurd (h.issued x.arena.nextToken (Nat.pos_of_ne_zero placed)).2 (Nat.lt_irrefl _)
  have places_eq : ∀ token, (x.issue bridge).2.places moving ((x.issue bridge).1 :: fresh) token =
      x.places moving fresh token + if x.arena.nextToken = token then 1 else 0 := by
    intro token
    simp only [places, List.count_cons, beq_iff_eq]
    exact (Nat.add_assoc _ _ _).symm
  refine ⟨h.flies, fun token => ?_, fun token placed => ?_, ?_⟩
  · rw [places_eq]
    split
    · rename_i new
      exact Nat.le_of_eq (by rw [← new, absent])
    · exact h.once token
  · rw [next]
    rw [places_eq] at placed
    split at placed
    · rename_i new
      exact new ▸ ⟨h.first, Nat.lt_succ_self _⟩
    · exact (h.issued token placed).imp_right Nat.lt_succ_of_lt
  · rw [next]
    exact Nat.le_succ_of_le h.first

/-- A call is counted; its token is now that of a slot in hand. -/
theorem raise (h : x.Tallies moving (token :: fresh)) (bridge : BridgeId) :
    (x.raise bridge).Tallies ((token, bridge) :: moving) fresh :=
  h.of_places_le (h.flies.raise bridge) rfl fun t => by
    simp only [places, tokens, Exchange.raise, Arena.raise, List.map_cons, List.count_cons]
    omega

/-- A slot goes from a hand into the arena. -/
theorem insertSlot (h : x.Tallies ((token, bridge) :: moving) fresh) :
    (x.insertSlot token bridge).Tallies moving fresh :=
  h.of_places_le (h.flies.insertSlot token) rfl fun t => by
    simp only [places, tokens, Exchange.insertSlot, Arena.insertSlot, List.map_cons,
      List.count_cons]
    omega

/-! ### Resuming -/

/-- A slot goes from the arena into a hand. -/
theorem takeSlot (h : x.Tallies moving fresh) (taken : x.takeSlot token = .ok (bridge, x')) :
    x'.Tallies ((token, bridge) :: moving) fresh := by
  have unique : x.tokens.count token ≤ 1 := by
    have once := h.once token
    rw [places] at once
    omega
  have flies := h.flies.takeSlot unique taken
  obtain ⟨found, rfl⟩ := takeSlot_ok taken
  refine h.of_places_le flies rfl fun t => ?_
  have slots := ((perm_of_lookup found unique).map Prod.fst).count_eq t
  simp only [places, tokens, List.map_cons, List.count_cons] at slots ⊢
  omega

/-- A call is counted off, and its slot is gone. -/
theorem lower (h : x.Tallies ((token, bridge) :: moving) fresh) :
    (x.lower bridge).Tallies moving fresh :=
  h.of_places_le h.flies.lower rfl fun t => by
    simp only [places, tokens, Exchange.lower, Arena.lower, List.map_cons, List.count_cons]
    omega

/-- **A step from a point keeps the tallies.** -/
theorem pass {point : Point} (h : x.Tallies (point.moving ++ moving) (point.fresh ++ fresh)) :
    (x.pass point).2.Tallies ((x.pass point).1.elim [] Point.moving ++ moving)
      ((x.pass point).1.elim [] Point.fresh ++ fresh) := by
  cases point with
  | issued future bridge token => exact h.raise bridge
  | raised future bridge token => exact h.insertSlot
  | removed token bridge outcome => exact h.lower
  | lowered token bridge outcome => exact h.same (send_arena _ _ _)
  | sent bridge resumed => exact h.same rfl
  | missed token => exact h

/-! ### What follows -/

/-- Slots in the arena and in hands have different tokens. -/
theorem nodup (h : x.Tallies moving fresh) : (x.tokens ++ moving.map Prod.fst).Nodup := by
  refine List.nodup_iff_count.2 fun token => ?_
  have once := h.once token
  rw [places] at once
  rw [List.count_append]
  omega

theorem subset (h : x.Tallies moving fresh) :
    x.tokens ++ moving.map Prod.fst ⊆ List.range' 1 (x.arena.nextToken - 1) := by
  intro token member
  have placed := List.count_pos_iff.2 member
  rw [List.count_append] at placed
  have issued := h.issued token (by rw [places]; omega)
  rw [List.mem_range'_1]
  omega

/-- A count stays below the next token, as each call in flight has a token of its own. -/
theorem inFlight_lt (h : x.Tallies moving fresh) (bridge : BridgeId) :
    x.arena.inFlight bridge < x.arena.nextToken := by
  have enough := (List.subperm_of_subset h.nodup h.subset).length_le
  have flies := h.flies bridge
  have slots := List.count_le_length (a := bridge) (l := x.slotBridges)
  have hands := List.count_le_length (a := bridge) (l := moving.map Prod.snd)
  have first := h.first
  simp only [List.length_append, List.length_map, List.length_range', tokens, slotBridges]
    at enough slots hands flies
  omega

end Tallies

theorem pendingCount_eq (bridge : BridgeId) (x : Exchange σ) :
    x.pendingCount bridge = x.slotBridges.count bridge := by
  rw [pendingCount, slotBridges, List.count, List.countP_map, List.countP_eq_length_filter]
  rfl

/-- Looking at a call that is not to be registered changes nothing but receiving ends and owners. -/
theorem pollWithin_calm {hand : List Token} {limit : Option Duration} {passed : Bool}
    {call call' : Call} {progress : Progress} (settled : call.toRegister? = none)
    (done : x.pollWithin libraries hand limit passed call = .ok (progress, call', x')) :
    Calm x x' := by
  obtain ⟨seen, call'', y, polled, drops⟩ := pollWithin_calmly done
  cases pollAmid_ok polled with
  | gone => exact drops
  | started collected => exact (collect_calm collected).1.trans drops
  | refused refusal => exact (drop_calm _ x).trans drops
  | handed sent handed collected =>
    simp [Call.toRegister?, sent, Except.isOk, Except.toBool] at settled

end Exchange

namespace Traffic

variable {σ : Type} {libraries : BridgeId → NativeLibrary σ} {t t' : Traffic σ} {answer : Answer}

/-! ## One step -/

/-- What a step does. -/
inductive Steps (libraries : BridgeId → NativeLibrary σ) (t : Traffic σ) :
    Act → Answer → Traffic σ → Prop where
  | clone {bridge : BridgeId} (able : 0 < t.handles bridge) :
    Steps libraries t (.clone bridge) .done
      { t with
        exchange := t.exchange.retain bridge
        handles := setAt t.handles bridge (t.handles bridge + 1) }
  | letGo {bridge : BridgeId} (able : 0 < t.handles bridge) :
    Steps libraries t (.letGo bridge) .done
      { t with
        exchange := t.exchange.release bridge
        handles := setAt t.handles bridge (t.handles bridge - 1) }
  | start {bridge : BridgeId} {request : String} {limit : Option Duration}
    (able : 0 < t.handles bridge) :
    Steps libraries t (.start bridge request limit) .done
      { t with
        exchange := t.exchange.retain bridge
        futures := t.futures ++ [⟨bridge, request, limit, .unstarted bridge request⟩] }
  /-- A call begins to be registered. -/
  | registers {thread : ThreadId} {place : Nat} {passed : Bool} {future : Future}
    {bridge : BridgeId} (at_ : t.futures[place]? = some future)
    (idle : t.isIdle thread = true) (free : t.isFree place = true)
    (new : future.call.toRegister? = some bridge) :
    Steps libraries t (.poll thread place passed) .done
      { t with
        exchange := (t.exchange.issue bridge).2
        midway := ⟨thread, .issued place bridge (t.exchange.issue bridge).1⟩ :: t.midway }
  /-- A call is looked at. -/
  | polls {thread : ThreadId} {place : Nat} {passed : Bool} {future : Future}
    {progress : Progress} {call : Call} {x : Exchange σ} (at_ : t.futures[place]? = some future)
    (idle : t.isIdle thread = true) (free : t.isFree place = true)
    (settled : future.call.toRegister? = none)
    (polled : t.exchange.pollWithin libraries t.inHand future.limit passed future.call
      = .ok (progress, call, x)) :
    Steps libraries t (.poll thread place passed) (.progress progress)
      { t with exchange := x, futures := t.futures.set place { future with call := call } }
  | drop {place : Nat} {future : Future} (at_ : t.futures[place]? = some future)
    (free : t.isFree place = true) :
    Steps libraries t (.drop place) .done
      { t with
        exchange := t.exchange.drop future.call
        futures := t.futures.set place { future with call := .gone } }
  /-- A slot is removed. -/
  | removes {thread : ThreadId} {token : Token} {outcome : Outcome} {bridge : BridgeId}
    {x : Exchange σ} (idle : t.isIdle thread = true)
    (taken : t.exchange.takeSlot token = .ok (bridge, x)) :
    Steps libraries t (.resume thread token outcome) .done
      { t with exchange := x, midway := ⟨thread, .removed token bridge outcome⟩ :: t.midway }
  /-- There is no slot. -/
  | misses {thread : ThreadId} {token : Token} {outcome : Outcome} {violation : Violation}
    (idle : t.isIdle thread = true)
    (missing : t.exchange.takeSlot token = .error violation) :
    Steps libraries t (.resume thread token outcome) .done
      { t with midway := ⟨thread, .missed token⟩ :: t.midway }
  /-- A thread has come to its last point. -/
  | ends {place : Nat} {thread : ThreadId} {point : Point}
    (at_ : t.midway[place]? = some ⟨thread, point⟩)
    (last : (t.exchange.pass point).1 = none) :
    Steps libraries t (.advance place) (t.answer point)
      { t with
        exchange := (t.exchange.pass point).2
        futures := settle point t.futures
        midway := t.midway.eraseIdx place }
  /-- A thread goes on to the next point. -/
  | goesOn {place : Nat} {thread : ThreadId} {point next : Point}
    (at_ : t.midway[place]? = some ⟨thread, point⟩)
    (more : (t.exchange.pass point).1 = some next) :
    Steps libraries t (.advance place) (t.answer point)
      { t with
        exchange := (t.exchange.pass point).2
        futures := settle point t.futures
        midway := t.midway.set place ⟨thread, next⟩ }

/-- **What a step can do**, one case for each act or two. -/
theorem step_ok {act : Act} (done : t.step libraries act = .ok (answer, t')) :
    Steps libraries t act answer t' := by
  cases act with
  | poll thread place passed =>
    simp only [step, poll] at done
    split at done
    · simp at done
    · rename_i future at_
      split at done
      · rename_i able
        split at done
        · rename_i new
          cases done
          exact .registers at_ able.1 able.2 new
        · rename_i settled
          split at done
          · simp at done
          · rename_i polled
            cases done
            exact .polls at_ able.1 able.2 settled polled
      · simp at done
  | drop place =>
    simp only [step, drop] at done
    split at done
    · simp at done
    · rename_i at_
      split at done
      · rename_i free
        cases done
        exact .drop at_ free
      · simp at done
  | resume thread token outcome =>
    simp only [step, resume] at done
    split at done
    · rename_i idle
      split at done
      · rename_i missing
        cases done
        exact .misses idle missing
      · rename_i taken
        cases done
        exact .removes idle taken
    · simp at done
  | advance place =>
    simp only [step, advance] at done
    split at done
    · simp at done
    · rename_i thread point at_
      cases passed : (t.exchange.pass point).1 with
      | none =>
        simp only [passed] at done
        cases done
        exact .ends at_ passed
      | some next =>
        simp only [passed] at done
        cases done
        exact .goesOn at_ passed
  | _ =>
    simp only [step] at done
    split at done
    · rename_i able
      cases done
      constructor
      exact able
    · simp at done

/-- Whoever is in the middle of something can go on, whatever others have done meanwhile. -/
theorem step_advance {place : Nat} {passage : Passage}
    (at_ : t.midway[place]? = some passage) :
    ∃ t', t.step libraries (.advance place) = .ok (t.answer passage.point, t') := by
  simp only [step, advance, at_]
  exact ⟨_, rfl⟩

/-! ## Tallies of a traffic -/

/-- The tallies are right for the threads that are in the middle of something. -/
def Tallied (t : Traffic σ) : Prop :=
  t.exchange.Tallies (t.midway.flatMap Passage.moving) (t.midway.flatMap Passage.fresh)

theorem initial_tallied (native : σ) (engines : BridgeId → EngineHandle) :
    Tallied (initial native engines) := .initial native engines

theorem Tallied.pass {place : Nat} {thread : ThreadId} {point : Point} (h : Tallied t)
    (at_ : t.midway[place]? = some ⟨thread, point⟩) :
    (t.exchange.pass point).2.Tallies
      ((t.exchange.pass point).1.elim [] Point.moving ++
        (t.midway.eraseIdx place).flatMap Passage.moving)
      ((t.exchange.pass point).1.elim [] Point.fresh ++
        (t.midway.eraseIdx place).flatMap Passage.fresh) :=
  Exchange.Tallies.pass
    (h.reorder (flatMap_perm_of_getElem? at_ _) (flatMap_perm_of_getElem? at_ _))

/-- **A step keeps the tallies.** -/
theorem step_tallied {act : Act} (h : Tallied t)
    (done : t.step libraries act = .ok (answer, t')) : Tallied t' := by
  cases step_ok done with
  | registers at_ idle free new => exact h.issue _
  | polls at_ idle free settled polled =>
    exact h.same (Exchange.pollWithin_calm settled polled).arena
  | @drop place future at_ free => exact h.same (Exchange.drop_calm future.call t.exchange).arena
  | removes idle taken => exact h.takeSlot taken
  | misses idle missing => exact h
  | ends at_ last =>
    have passed := h.pass at_
    rw [last] at passed
    exact passed
  | @goesOn place thread _ next at_ more =>
    have passed := h.pass at_
    rw [more] at passed
    exact passed.reorder (flatMap_set_perm_of_getElem? at_ ⟨thread, next⟩ Passage.moving).symm
      (flatMap_set_perm_of_getElem? at_ ⟨thread, next⟩ Passage.fresh).symm
  | _ => exact Exchange.Tallies.same h rfl

theorem isRun (libraries : BridgeId → NativeLibrary σ) :
    IsRun (step libraries) (run libraries) where
  nil _ := rfl
  cons act acts t := by
    rw [run]
    rcases step libraries act t with halt | ⟨answer, next⟩
    · rfl
    · simp only [bind, Except.bind]
      cases run libraries acts next <;> rfl

/-- **A run keeps the tallies.** -/
theorem run_tallied {acts : List Act} {answers : List Answer} (h : Tallied t)
    (ran : t.run libraries acts = .ok (answers, t')) : Tallied t' :=
  (isRun libraries).keeps (fun h (_ : True) stepped => step_tallied h stepped) h
    (fun _ _ => trivial) ran

/-! ## The count -/

/-- The slots in hand are those of calls that enter the arena and of calls that leave it. -/
theorem count_moving (bridge : BridgeId) (midway : List Passage) :
    ((midway.flatMap Passage.moving).map Prod.snd).count bridge =
      (midway.filterMap fun passage => passage.point.entering?).count bridge +
        (midway.filterMap fun passage => passage.point.leaving?).count bridge := by
  induction midway with
  | nil => rfl
  | cons passage midway ih =>
    obtain ⟨thread, point⟩ := passage
    rw [List.flatMap_cons, List.map_append, List.count_append, ih]
    cases point <;>
      simp only [Passage.moving, Point.moving, Point.entering?, Point.leaving?, List.map_cons,
        List.map_nil, List.filterMap_cons, List.count_cons, List.count_nil] <;>
      omega

theorem Tallied.counts (h : Tallied t) (bridge : BridgeId) :
    t.exchange.arena.inFlight bridge =
      t.exchange.pendingCount bridge + t.entering bridge + t.leaving bridge := by
  rw [h.flies bridge, count_moving, Exchange.pendingCount_eq, entering, leaving, Nat.add_assoc]

/-- Acts that leave all slots and all counts alone: those of handles and futures, whether a limit
has passed or not, and both steps of a resume that fails. -/
inductive Spares (t : Traffic σ) : Act → Prop where
  | clone (bridge : BridgeId) : Spares t (.clone bridge)
  | letGo (bridge : BridgeId) : Spares t (.letGo bridge)
  | start (bridge : BridgeId) (request : String) (limit : Option Duration) :
    Spares t (.start bridge request limit)
  | poll (thread : ThreadId) (place : Nat) (passed : Bool) : Spares t (.poll thread place passed)
  | drop (place : Nat) : Spares t (.drop place)
  | misses (thread : ThreadId) {token : Token} (outcome : Outcome)
    (missing : t.exchange.arena.find? token = none) : Spares t (.resume thread token outcome)
  | fails {place : Nat} {thread : ThreadId} {token : Token}
    (at_ : t.midway[place]? = some ⟨thread, .missed token⟩) : Spares t (.advance place)

theorem step_spares {act : Act} (spares : Spares t act)
    (done : t.step libraries act = .ok (answer, t')) :
    t'.exchange.arena.slots = t.exchange.arena.slots ∧
      t'.exchange.arena.inFlight = t.exchange.arena.inFlight := by
  cases step_ok done with
  | polls at_ idle free settled polled =>
    rw [(Exchange.pollWithin_calm settled polled).arena]
    exact ⟨rfl, rfl⟩
  | @drop _ future at_ free =>
    rw [(Exchange.drop_calm future.call t.exchange).arena]
    exact ⟨rfl, rfl⟩
  | removes idle taken =>
    cases spares with
    | misses _ _ missing =>
      have found := (Exchange.takeSlot_ok taken).1
      rw [missing] at found
      cases found
  | ends at_ last =>
    cases spares with
    | fails missed =>
      obtain ⟨rfl, rfl⟩ := Passage.mk.inj (Option.some.inj (at_.symm.trans missed))
      exact ⟨rfl, rfl⟩
  | goesOn at_ more =>
    cases spares with
    | fails missed =>
      obtain ⟨rfl, rfl⟩ := Passage.mk.inj (Option.some.inj (at_.symm.trans missed))
      cases more
  | _ => exact ⟨rfl, rfl⟩

theorem missed_of_failure {point : Point} {violation : Violation}
    (fails : .resumed (.error violation) = t.answer point) : ∃ token, point = .missed token := by
  cases point with
  | missed token => exact ⟨token, rfl⟩
  | _ => cases fails

/-- A step that answers a failure is one of a resume that found no slot. -/
theorem spares_of_failure {act : Act} {violation : Violation}
    (done : t.step libraries act = .ok (.resumed (.error violation), t')) : Spares t act := by
  generalize fails : Answer.resumed (.error violation) = answer at done
  cases step_ok done with
  | ends at_ last =>
    obtain ⟨token, rfl⟩ := missed_of_failure fails
    exact .fails at_
  | goesOn at_ more =>
    obtain ⟨token, rfl⟩ := missed_of_failure fails
    exact .fails at_
  | _ => cases fails

/-- What `in_flight` says, and what changes it. -/
structure TellsTruth (libraries : BridgeId → NativeLibrary σ) (t : Traffic σ) : Prop where
  /-- The calls in flight are the slots, the calls that are counted and not put in yet, and the
  calls that are removed and not counted off yet. -/
  counts : ∀ bridge, t.exchange.arena.inFlight bridge =
    t.exchange.pendingCount bridge + t.entering bridge + t.leaving bridge
  /-- A count that is about to be lowered is not zero. -/
  lowers : ∀ passage ∈ t.midway, ∀ token bridge outcome,
    passage.point = .removed token bridge outcome → 0 < t.exchange.arena.inFlight bridge
  /-- No pending slot is left out. -/
  covers : ∀ bridge, t.exchange.pendingCount bridge ≤ t.exchange.arena.inFlight bridge
  /-- If nobody is in the middle of anything, only pending slots are counted. -/
  settled : t.midway = [] →
    ∀ bridge, t.exchange.arena.inFlight bridge = t.exchange.pendingCount bridge
  /-- Words that are enough for the tokens are enough for the counts. -/
  bounded : ∀ bridge, t.exchange.arena.inFlight bridge < t.exchange.arena.nextToken
  /-- Handles, futures and failing resumes leave slots and counts alone. -/
  spared : ∀ act answer t', t.step libraries act = .ok (answer, t') → Spares t act →
    t'.exchange.arena.slots = t.exchange.arena.slots ∧
      t'.exchange.arena.inFlight = t.exchange.arena.inFlight
  /-- A resume that answers a failure is such a step. -/
  failures : ∀ act violation t',
    t.step libraries act = .ok (.resumed (.error violation), t') → Spares t act

/-- **The count of calls in flight tells the truth at every moment**, whatever threads do and
however they come between each other. -/
theorem in_flight_tells_truth (native : σ) (engines : BridgeId → EngineHandle) (acts : List Act)
    (answers : List Answer) (t : Traffic σ)
    (ran : run libraries acts (initial native engines) = .ok (answers, t)) :
    TellsTruth libraries t := by
  have tallied := run_tallied (initial_tallied native engines) ran
  have counts := tallied.counts
  refine ⟨counts, ?_, ?_, ?_, tallied.inFlight_lt, fun act answer t' done spares =>
    step_spares spares done, fun act violation t' done => spares_of_failure done⟩
  · intro passage member token bridge outcome is
    have leaves : 0 < t.leaving bridge :=
      List.count_pos_iff.2 (List.mem_filterMap.2 ⟨passage, member, by rw [is]; rfl⟩)
    rw [counts]
    omega
  · intro bridge
    rw [counts, Nat.add_assoc]
    exact Nat.le_add_right _ _
  · intro nobody bridge
    rw [counts, entering, leaving, nobody]
    rfl

/-- Two threads register, a third resumes, and a fourth fails to: a call of one bridge is counted
before its slot is there, and a call of another is still counted when its slot is gone. -/
def crossing : List Act :=
  [.start 0 "first" none, .start 1 "second" none, .poll 1 0 false, .advance 0, .advance 0,
    .poll 2 1 false, .advance 0, .resume 3 1 (.ok "answer"), .drop 0, .letGo 0,
    .resume 4 1 (.ok "again"), .advance 0]

theorem in_flight_tells_truth_crossing : ∃ answers t,
    run (fun _ => Script.library) crossing (initial .empty fun _ => .owned 1) = .ok (answers, t) ∧
      t.exchange.arena.slots = [] ∧
      (t.leaving 0 = 1 ∧ t.exchange.arena.inFlight 0 = 1) ∧
      (t.entering 1 = 1 ∧ t.exchange.arena.inFlight 1 = 1) ∧
      TellsTruth (fun _ => Script.library) t := by
  have ends : (run (fun _ => Script.library) crossing
      (initial .empty fun _ => .owned 1)).toOption.any (fun (_, t) =>
        t.exchange.arena.slots = [] ∧ (t.leaving 0 = 1 ∧ t.exchange.arena.inFlight 0 = 1) ∧
          (t.entering 1 = 1 ∧ t.exchange.arena.inFlight 1 = 1)) = true := by
    decide +kernel
  cases ran : run (fun _ => Script.library) crossing (initial .empty fun _ => .owned 1) with
  | error halt =>
    rw [ran] at ends
    cases ends
  | ok result =>
    obtain ⟨answers, t⟩ := result
    rw [ran] at ends
    obtain ⟨slots, leaves, enters⟩ := of_decide_eq_true ends
    have truth := in_flight_tells_truth Script.empty (fun _ => .owned 1) crossing answers t ran
    exact ⟨answers, t, rfl, slots, leaves, enters, truth⟩

end Traffic

end EngineBridge
