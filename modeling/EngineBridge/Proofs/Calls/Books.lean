import EngineBridge.Calls.World
import Mathlib.Data.List.Perm.Basic
/-!
# The books of an exchange

`Books` is what every step of everybody keeps.  Each token that was issued is in one place:
it has a slot, or its slot is in the hand of a callback, or its outcome was sent.  A receiving
end is open for each started call and for nothing else, and holds what was delivered to it.
The owners of a bridge are those who refer to it, and its engine was freed once if there are
none.

The calls, the tokens in hand and the holders of bridges are not in the exchange itself, so
they are parameters; each step is a lemma that says how it moves them.
-/

namespace EngineBridge

@[simp] theorem setAt_apply {α : Type} (f : Nat → α) (place i : Nat) (value : α) :
    setAt f place value i = if i = place then value else f i := rfl

/-- One more at a place. -/
def bump (count : Nat → Nat) (place : Nat) : Nat → Nat := setAt count place (count place + 1)

theorem bump_apply (count : Nat → Nat) (place i : Nat) :
    bump count place i = count i + if i = place then 1 else 0 := by
  by_cases h : i = place <;> simp [bump, h]

/-- Whether somebody may still receive here. -/
def Mailbox.isOpen : Mailbox → Bool
  | closed => false
  | _ => true

namespace Call

/-- The token whose answer a call waits for. -/
def token? : Call → Option Token
  | started _ token => some token
  | _ => none

/-- The bridge that a call owns. -/
def bridge? : Call → Option BridgeId
  | unstarted bridge _ => some bridge
  | started bridge _ => some bridge
  | gone => none

end Call

theorem count_receivers_started (bridge : BridgeId) (token t : Token) (calls : List Call) :
    ((Call.started bridge token :: calls).filterMap Call.token?).count t
      = (calls.filterMap Call.token?).count t + if t = token then 1 else 0 := by
  have ht : token = t ↔ t = token := eq_comm
  simp [Call.token?, List.count_cons, ht]

theorem count_bridges_started (bridge b : BridgeId) (token : Token) (calls : List Call) :
    ((Call.started bridge token :: calls).filterMap Call.bridge?).count b
      = (calls.filterMap Call.bridge?).count b + if b = bridge then 1 else 0 := by
  have hb : bridge = b ↔ b = bridge := eq_comm
  simp [Call.bridge?, List.count_cons, hb]

/-! ## Slots under unique tokens -/

theorem lookup_mem {token : Token} {bridge : BridgeId} :
    ∀ {slots : List (Token × BridgeId)}, slots.lookup token = some bridge → (token, bridge) ∈ slots
  | [], h => by simp at h
  | (t, b) :: slots, h => by
    by_cases ht : token = t
    · subst ht
      simp only [List.lookup_cons_self, Option.some.injEq] at h
      simp [h]
    · rw [List.lookup_cons, beq_false_of_ne ht] at h
      exact List.mem_cons_of_mem _ (lookup_mem h)

theorem lookup_eq_none_iff {token : Token} :
    ∀ {slots : List (Token × BridgeId)}, slots.lookup token = none ↔ token ∉ slots.map Prod.fst
  | [] => by simp
  | (t, b) :: slots => by
    by_cases ht : token = t
    · subst ht; simp
    · rw [List.lookup_cons, beq_false_of_ne ht]
      simp [@lookup_eq_none_iff token slots, ht]

theorem perm_of_lookup {token : Token} {bridge : BridgeId} :
    ∀ {slots : List (Token × BridgeId)}, slots.lookup token = some bridge →
      (slots.map Prod.fst).count token ≤ 1 →
      slots.Perm ((token, bridge) :: slots.filter fun slot => slot.1 ≠ token)
  | [], h, _ => by simp at h
  | (t, b) :: slots, h, unique => by
    by_cases ht : token = t
    · subst ht
      simp only [List.lookup_cons_self, Option.some.injEq] at h
      subst h
      have absent : token ∉ slots.map Prod.fst := by
        intro member
        have := List.count_pos_iff.2 member
        simp only [List.map_cons, List.count_cons_self] at unique
        omega
      have kept : slots.filter (fun slot => slot.1 ≠ token) = slots := by
        rw [List.filter_eq_self]
        intro slot member
        have : slot.1 ≠ token := fun same => absent (same ▸ List.mem_map_of_mem member)
        simpa using this
      rw [List.filter_cons_of_neg (by simp), kept]
    · rw [List.lookup_cons, beq_false_of_ne ht] at h
      have unique' : (slots.map Prod.fst).count token ≤ 1 := by
        rw [List.map_cons, List.count_cons_of_ne (Ne.symm ht)] at unique
        exact unique
      have rest := perm_of_lookup h unique'
      have kept : ((t, b) :: slots).filter (fun slot => slot.1 ≠ token)
          = (t, b) :: slots.filter (fun slot => slot.1 ≠ token) := by
        rw [List.filter_cons_of_pos]
        simpa using Ne.symm ht
      rw [kept]
      exact (rest.cons (t, b)).trans (List.Perm.swap _ _ _)

namespace Exchange

variable {σ : Type}

/-- The tokens that have a slot. -/
def tokens (x : Exchange σ) : List Token := x.arena.slots.map Prod.fst

/-- The bridges that slots own. -/
def slotBridges (x : Exchange σ) : List BridgeId := x.arena.slots.map Prod.snd

/-- The tokens whose outcome was sent. -/
def sent (x : Exchange σ) : List Token := x.deliveries.map Delivery.token

/-- Whether a call has somebody to receive its outcome. -/
def isAwaited (x : Exchange σ) (token : Token) : Bool := (x.mailboxes token).isOpen

/-! ## What registering changes -/

section register

variable (bridge : BridgeId) (x : Exchange σ)

theorem register_nextToken : (x.register bridge).2.arena.nextToken = x.arena.nextToken + 1 := rfl

theorem register_slots :
    (x.register bridge).2.arena.slots = (x.arena.nextToken, bridge) :: x.arena.slots := rfl

theorem register_mailboxes :
    (x.register bridge).2.mailboxes = setAt x.mailboxes x.arena.nextToken .waiting := rfl

theorem register_bridges :
    (x.register bridge).2.bridges = setAt x.bridges bridge (x.bridges bridge).retain := rfl

theorem register_deliveries : (x.register bridge).2.deliveries = x.deliveries := rfl

end register

/-! ## What sending changes -/

section send

variable (token : Token) (outcome : Outcome) (x : Exchange σ)

theorem send_arena : (x.send token outcome).2.arena = x.arena := by
  unfold send; split <;> rfl

theorem send_bridges : (x.send token outcome).2.bridges = x.bridges := by
  unfold send; split <;> rfl

theorem send_native : (x.send token outcome).2.native = x.native := by
  unfold send; split <;> rfl

theorem send_requests : (x.send token outcome).2.requests = x.requests := by
  unfold send; split <;> rfl

/-- A delivery is noted, and what became of it is answered. -/
theorem send_deliveries : (x.send token outcome).2.deliveries
    = ⟨token, outcome, (x.send token outcome).1⟩ :: x.deliveries := by
  unfold send; split <;> rfl

theorem send_sent : (x.send token outcome).2.deliveries.map Delivery.token = token :: x.sent := by
  rw [send_deliveries]; rfl

theorem send_deliveries_subset : x.deliveries ⊆ (x.send token outcome).2.deliveries := by
  rw [send_deliveries]; exact List.subset_cons_self _ _

variable {token x} in
theorem send_mailboxes_of_ne {t : Token} (ht : t ≠ token) :
    (x.send token outcome).2.mailboxes t = x.mailboxes t := by
  unfold send; split <;> simp [ht]

theorem send_isAwaited (t : Token) :
    (x.send token outcome).2.isAwaited t = x.isAwaited t := by
  by_cases ht : t = token
  · subst ht
    unfold send
    cases mailbox : x.mailboxes t <;> simp [isAwaited, mailbox, Mailbox.isOpen]
  · rw [isAwaited, send_mailboxes_of_ne outcome ht, isAwaited]

theorem send_not_waiting : (x.send token outcome).2.mailboxes token ≠ .waiting := by
  unfold send
  cases mailbox : x.mailboxes token <;> simp [mailbox]

/-- What holds an outcome after it was sent got it delivered. -/
theorem send_holding {token : Token} {outcome outcome' : Outcome} {x : Exchange σ}
    (empty : x.mailboxes token ≠ .holding outcome')
    (holds : (x.send token outcome).2.mailboxes token = .holding outcome') :
    ⟨token, outcome', .delivered⟩ ∈ (x.send token outcome).2.deliveries := by
  unfold send at holds ⊢
  split at holds
  · simp only [setAt_apply, if_true, Mailbox.holding.injEq] at holds
    simp [holds]
  · exact absurd holds empty

end send

/-- A slot that is taken was there, and nothing else changes. -/
theorem takeSlot_ok {token : Token} {bridge : BridgeId} {x x' : Exchange σ}
    (taken : x.takeSlot token = .ok (bridge, x')) :
    x.arena.find? token = some bridge ∧
      x' = { x with
        arena := { x.arena with slots := x.arena.slots.filter fun slot => slot.1 ≠ token } } := by
  simp only [takeSlot, Arena.removeSlot] at taken
  cases found : x.arena.find? token with
  | none => simp [found] at taken
  | some b =>
    simp only [found, Except.ok.injEq, Prod.mk.injEq] at taken
    obtain ⟨rfl, rfl⟩ := taken
    exact ⟨rfl, rfl⟩

/-! ## The books -/

/-- What holds of an exchange, of the calls on it, of the tokens whose outcomes are about to be
sent, and of the count of those who hold each bridge besides. -/
structure Books (engines : BridgeId → EngineHandle) (x : Exchange σ) (calls : List Call)
    (hand : List Token) (held : BridgeId → Nat) : Prop where
  /-- Tokens begin at one. -/
  first : (1 : Nat) ≤ x.arena.nextToken
  /-- A token is in no two places. -/
  once : ∀ t, x.tokens.count t + hand.count t + x.sent.count t ≤ 1
  /-- The tokens that are somewhere are those that were issued. -/
  issued : ∀ t : Nat, 0 < x.tokens.count t + hand.count t + x.sent.count t ↔
    1 ≤ t ∧ t < x.arena.nextToken
  /-- A receiving end is open for one call, which was started. -/
  receivers : ∀ t, (calls.filterMap Call.token?).count t = (x.isAwaited t).toNat
  /-- Who waits will be answered. -/
  waiting : ∀ t, x.mailboxes t = .waiting → 0 < x.tokens.count t + hand.count t
  /-- What has arrived was delivered. -/
  holding : ∀ t outcome, x.mailboxes t = .holding outcome → ⟨t, outcome, .delivered⟩ ∈ x.deliveries
  owners : ∀ b, (x.bridges b).owners
    = held b + (calls.filterMap Call.bridge?).count b + x.slotBridges.count b
  engine : ∀ b, (x.bridges b).engine = engines b
  frees : ∀ b, (x.bridges b).frees
    = if (x.bridges b).owners = 0 then (engines b).toFree.toList else []

namespace Books

variable {engines : BridgeId → EngineHandle} {x x' : Exchange σ} {calls calls' : List Call}
  {hand hand' : List Token} {held held' : BridgeId → Nat}

/-- The books of an exchange on which nothing has happened. -/
theorem initial (native : σ) (engines : BridgeId → EngineHandle) :
    Books engines (Exchange.initial native engines) [] [] fun _ => 1 where
  first := by simp [Exchange.initial, Arena.initial]
  once t := by simp [tokens, sent, Exchange.initial, Arena.initial]
  issued t := by
    simp only [tokens, sent, Exchange.initial, Arena.initial, List.map_nil, List.count_nil]
    omega
  receivers t := by simp [isAwaited, Exchange.initial, Mailbox.isOpen]
  waiting t h := by simp [Exchange.initial] at h
  holding t outcome h := by simp [Exchange.initial] at h
  owners b := by simp [slotBridges, Exchange.initial, Arena.initial, Ownership.single]
  engine b := by simp [Exchange.initial, Ownership.single]
  frees b := by simp [Exchange.initial, Ownership.single]

/-- Only counts matter, so the order of calls and tokens does not. -/
theorem reorder (h : Books engines x calls hand held) (hc : calls.Perm calls')
    (hh : hand.Perm hand') (hb : ∀ b, held b = held' b) : Books engines x calls' hand' held' where
  first := h.first
  once t := by rw [← hh.count_eq t]; exact h.once t
  issued t := by rw [← hh.count_eq t]; exact h.issued t
  receivers t := by rw [← (hc.filterMap _).count_eq t]; exact h.receivers t
  waiting t ht := by rw [← hh.count_eq t]; exact h.waiting t ht
  holding := h.holding
  owners b := by rw [← (hc.filterMap _).count_eq b, ← hb b]; exact h.owners b
  engine := h.engine
  frees := h.frees

/-- The native side, the counts of calls and the requests are in no book. -/
theorem transfer (h : Books engines x calls hand held)
    (next : x'.arena.nextToken = x.arena.nextToken) (slots : x'.arena.slots = x.arena.slots)
    (mailboxes : x'.mailboxes = x.mailboxes) (bridges : x'.bridges = x.bridges)
    (deliveries : x'.deliveries = x.deliveries) : Books engines x' calls hand held where
  first := by rw [next]; exact h.first
  once t := by simpa only [tokens, sent, slots, deliveries] using h.once t
  issued t := by simpa only [tokens, sent, next, slots, deliveries] using h.issued t
  receivers t := by
    rw [isAwaited, mailboxes]
    exact h.receivers t
  waiting t ht := by
    rw [mailboxes] at ht
    simpa only [tokens, slots] using h.waiting t ht
  holding t outcome ht := by
    rw [mailboxes] at ht
    rw [deliveries]
    exact h.holding t outcome ht
  owners b := by simpa only [slotBridges, slots, bridges] using h.owners b
  engine b := by rw [bridges]; exact h.engine b
  frees b := by rw [bridges]; exact h.frees b

/-! ### Owners -/

/-- Somebody who holds a bridge holds it once more. -/
theorem retain {bridge : BridgeId} (h : Books engines x calls hand held)
    (alive : 0 < (x.bridges bridge).owners) :
    Books engines (x.retain bridge) calls hand (bump held bridge) where
  first := h.first
  once := h.once
  issued := h.issued
  receivers := h.receivers
  waiting := h.waiting
  holding := h.holding
  owners b := by
    have := h.owners b
    by_cases hb : b = bridge
    · subst hb
      simp only [Exchange.retain, slotBridges, setAt_apply, Ownership.retain, bump_apply, if_true]
        at this ⊢
      omega
    · simpa [Exchange.retain, slotBridges, bump_apply, hb] using this
  engine b := by
    by_cases hb : b = bridge
    · subst hb; simpa [Exchange.retain, Ownership.retain] using h.engine b
    · simpa [Exchange.retain, hb] using h.engine b
  frees b := by
    have := h.frees b
    by_cases hb : b = bridge
    · subst hb
      rw [if_neg (by omega)] at this
      simpa [Exchange.retain, Ownership.retain] using this
    · simpa [Exchange.retain, hb] using this

/-- Somebody who holds a bridge lets it go; the last one frees the engine. -/
theorem release {bridge : BridgeId} (h : Books engines x calls hand (bump held bridge)) :
    Books engines (x.release bridge) calls hand held where
  first := h.first
  once := h.once
  issued := h.issued
  receivers := h.receivers
  waiting := h.waiting
  holding := h.holding
  owners b := by
    have := h.owners b
    by_cases hb : b = bridge
    · subst hb
      simp only [Exchange.release, slotBridges, setAt_apply, Ownership.release, bump_apply, if_true]
        at this ⊢
      omega
    · simpa [Exchange.release, slotBridges, bump_apply, hb] using this
  engine b := by
    by_cases hb : b = bridge
    · subst hb; simpa [Exchange.release, Ownership.release] using h.engine b
    · simpa [Exchange.release, hb] using h.engine b
  frees b := by
    have freed := h.frees b
    by_cases hb : b = bridge
    · subst hb
      have owners := h.owners b
      simp only [bump_apply, if_true] at owners
      rw [if_neg (by omega)] at freed
      have last : (x.bridges b).owners - 1 = 0 ↔ (x.bridges b).owners = 1 := by omega
      simp only [Exchange.release, Ownership.release, setAt_apply, if_true, freed, last,
        h.engine b, List.append_nil]
    · simpa [Exchange.release, hb] using freed

theorem alive (h : Books engines x calls hand held) (bridge : BridgeId)
    (holder : 0 < held bridge) : 0 < (x.bridges bridge).owners := by
  have := h.owners bridge
  omega

theorem alive_of_slot {token : Token} {bridge : BridgeId} (h : Books engines x calls hand held)
    (slot : (token, bridge) ∈ x.arena.slots) : 0 < (x.bridges bridge).owners := by
  have member : bridge ∈ x.slotBridges := List.mem_map_of_mem slot
  have := List.count_pos_iff.2 member
  have := h.owners bridge
  omega

/-! ### Calls -/

/-- A call that is finished is no matter of the books. -/
theorem gone_iff : Books engines x (.gone :: calls) hand held ↔ Books engines x calls hand held :=
  ⟨fun h => ⟨h.first, h.once, h.issued, h.receivers, h.waiting, h.holding, h.owners, h.engine, h.frees⟩,
    fun h => ⟨h.first, h.once, h.issued, h.receivers, h.waiting, h.holding, h.owners, h.engine, h.frees⟩⟩

/-- A holder of a bridge makes a call of it, which is not started. -/
theorem unstarted_iff {bridge : BridgeId} {request : String} :
    Books engines x (.unstarted bridge request :: calls) hand held ↔
      Books engines x calls hand (bump held bridge) := by
  have owners : ∀ b, held b
      + ((Call.unstarted bridge request :: calls).filterMap Call.bridge?).count b
      = bump held bridge b + (calls.filterMap Call.bridge?).count b := by
    intro b
    have hb : bridge = b ↔ b = bridge := eq_comm
    simp only [List.filterMap_cons, Call.bridge?, List.count_cons, beq_iff_eq, bump_apply, hb]
    omega
  constructor
  · intro h
    exact ⟨h.first, h.once, h.issued, h.receivers, h.waiting, h.holding,
      fun b => by rw [h.owners b, owners b], h.engine, h.frees⟩
  · intro h
    exact ⟨h.first, h.once, h.issued, h.receivers, h.waiting, h.holding,
      fun b => by rw [h.owners b, owners b], h.engine, h.frees⟩

theorem issued_of_awaited {t : Nat} (h : Books engines x calls hand held)
    (awaited : x.isAwaited t = true) : 1 ≤ t ∧ t < x.arena.nextToken := by
  rw [← h.issued t]
  cases mailbox : x.mailboxes t with
  | waiting => have := h.waiting t mailbox; omega
  | holding outcome =>
    have : t ∈ x.sent := List.mem_map_of_mem (h.holding t outcome mailbox)
    have := List.count_pos_iff.2 this
    omega
  | closed => simp [isAwaited, mailbox, Mailbox.isOpen] at awaited

theorem next_closed (h : Books engines x calls hand held) :
    x.mailboxes x.arena.nextToken = .closed := by
  cases mailbox : x.mailboxes x.arena.nextToken with
  | closed => rfl
  | _ =>
    have := h.issued_of_awaited (t := x.arena.nextToken) (by simp [isAwaited, mailbox, Mailbox.isOpen])
    omega

theorem awaited_of_started {bridge : BridgeId} {token : Token}
    (h : Books engines x (.started bridge token :: calls) hand held) :
    x.isAwaited token = true := by
  have := h.receivers token
  rw [count_receivers_started, if_pos rfl] at this
  cases awaited : x.isAwaited token with
  | true => rfl
  | false => rw [awaited] at this; simp at this

/-- A started call is finished: its receiving end goes, and its caller has the bridge. -/
theorem close {bridge : BridgeId} {token : Token}
    (h : Books engines x (.started bridge token :: calls) hand held) :
    Books engines (x.close token) calls hand (bump held bridge) where
  first := h.first
  once := h.once
  issued := h.issued
  receivers t := by
    have := h.receivers t
    rw [count_receivers_started] at this
    by_cases ht : t = token
    · subst ht
      rw [h.awaited_of_started, if_pos rfl] at this
      simpa [Exchange.close, isAwaited, Mailbox.isOpen] using this
    · simpa [Exchange.close, isAwaited, ht] using this
  waiting t ht := by
    by_cases same : t = token
    · simp [Exchange.close, same] at ht
    · exact h.waiting t (by simpa [Exchange.close, same] using ht)
  holding t outcome ht := by
    by_cases same : t = token
    · simp [Exchange.close, same] at ht
    · exact h.holding t outcome (by simpa [Exchange.close, same] using ht)
  owners b := by
    have := h.owners b
    rw [count_bridges_started] at this
    rw [bump_apply]
    simp only [Exchange.close, slotBridges] at this ⊢
    omega
  engine := h.engine
  frees := h.frees

/-! ### Tokens -/

/-- A call that owns its bridge is registered and waits from then on. -/
theorem register {bridge : BridgeId} (h : Books engines x calls hand (bump held bridge)) :
    Books engines (x.register bridge).2 (.started bridge x.arena.nextToken :: calls) hand held where
  first := Nat.le_add_left _ _
  once t := by
    have once := h.once t
    have issued := h.issued t
    simp only [tokens, register_slots, List.map_cons, List.count_cons, beq_iff_eq]
    split
    -- the new token was issued to nobody, so it is nowhere yet
    · subst t; simp only [tokens, sent, register_deliveries] at *; omega
    · exact once
  issued t := by
    have := h.issued t
    have := h.first
    simp only [tokens, register_slots, List.map_cons, List.count_cons, beq_iff_eq, register_nextToken]
    simp only [tokens, sent, register_deliveries] at *
    split <;> omega
  receivers t := by
    have := h.receivers t
    rw [count_receivers_started, this, isAwaited, isAwaited, register_mailboxes, setAt_apply]
    by_cases ht : t = x.arena.nextToken
    · subst ht; simp [h.next_closed, Mailbox.isOpen]
    · simp [ht]
  waiting t ht := by
    simp only [tokens, register_slots, List.map_cons, List.count_cons, beq_iff_eq]
    rw [register_mailboxes, setAt_apply] at ht
    split
    · omega
    · have := h.waiting t (by simpa [Ne.symm ‹_›] using ht)
      simpa only [tokens, Nat.add_zero] using this
  holding t outcome ht := by
    rw [register_mailboxes, setAt_apply] at ht
    split at ht
    · simp at ht
    · exact h.holding t outcome ht
  owners b := by
    have := h.owners b
    rw [count_bridges_started]
    simp only [slotBridges, register_slots, register_bridges, List.map_cons, List.count_cons,
      beq_iff_eq, setAt_apply, bump_apply] at this ⊢
    by_cases same : b = bridge
    · subst same; simp only [Ownership.retain, if_true] at this ⊢; omega
    · simpa [same, Ne.symm same] using this
  engine b := by
    have := h.engine b
    rw [register_bridges, setAt_apply]
    split
    · subst b; exact this
    · exact this
  frees b := by
    have freed := h.frees b
    rw [register_bridges, setAt_apply]
    split
    · subst b
      have := h.alive bridge (by simp [bump_apply])
      rw [if_neg (by omega)] at freed
      simpa [Ownership.retain] using freed
    · exact freed

/-- The slot of a token, if there is one, and all others. -/
theorem slots_perm {token : Token} {bridge : BridgeId} (h : Books engines x calls hand held)
    (found : x.arena.find? token = some bridge) :
    x.arena.slots.Perm
      ((token, bridge) :: x.arena.slots.filter fun slot => slot.1 ≠ token) := by
  have := h.once token
  exact perm_of_lookup found (by simp only [tokens] at this; omega)

/-- A slot is taken from the arena into somebody's hand, with the bridge that it owns. -/
theorem takeSlot {token : Token} {bridge : BridgeId} (h : Books engines x calls hand held)
    (taken : x.takeSlot token = .ok (bridge, x')) :
    Books engines x' calls (token :: hand) (bump held bridge) := by
  obtain ⟨found, rfl⟩ := takeSlot_ok taken
  have perm := h.slots_perm found
  -- the token goes from the arena into the hand, so the sums of counts stay
  have sums : ∀ t, ((x.arena.slots.filter fun slot => slot.1 ≠ token).map Prod.fst).count t
      + (token :: hand).count t = x.tokens.count t + hand.count t := by
    intro t
    rw [tokens, (perm.map Prod.fst).count_eq t, List.map_cons, List.count_cons, List.count_cons]
    dsimp only
    omega
  refine ⟨h.first, ?_, ?_, h.receivers, ?_, h.holding, ?_, h.engine, h.frees⟩
  · intro t
    have once := h.once t
    rw [← sums t] at once
    exact once
  · intro t
    have issued := h.issued t
    rw [← sums t] at issued
    exact issued
  · intro t waits
    have place := h.waiting t waits
    rw [← sums t] at place
    exact place
  · intro b
    have := h.owners b
    have hb : bridge = b ↔ b = bridge := eq_comm
    rw [slotBridges, (perm.map Prod.snd).count_eq b, List.map_cons, List.count_cons] at this
    rw [bump_apply]
    simp only [beq_iff_eq, hb, slotBridges] at this ⊢
    omega

/-- Nothing has arrived for a token in somebody's hand. -/
theorem not_holding {token : Token} (h : Books engines x calls (token :: hand) held)
    (outcome : Outcome) : x.mailboxes token ≠ .holding outcome := by
  intro mailbox
  have member : token ∈ x.sent := List.mem_map_of_mem (h.holding token outcome mailbox)
  have := List.count_pos_iff.2 member
  have := h.once token
  rw [List.count_cons_self] at this
  omega

theorem send {token : Token} (h : Books engines x calls (token :: hand) held)
    (outcome : Outcome) : Books engines (x.send token outcome).2 calls hand held where
  first := by rw [send_arena]; exact h.first
  once t := by
    have := h.once t
    rw [List.count_cons] at this
    simp only [tokens, sent, send_arena, send_sent, List.count_cons] at this ⊢
    omega
  issued t := by
    have := h.issued t
    rw [List.count_cons] at this
    simp only [tokens, sent, send_arena, send_sent, List.count_cons] at this ⊢
    omega
  receivers t := by rw [send_isAwaited]; exact h.receivers t
  waiting t waits := by
    have ne : t ≠ token := by
      rintro rfl
      exact absurd waits (send_not_waiting t outcome x)
    rw [send_mailboxes_of_ne outcome ne] at waits
    have := h.waiting t waits
    rw [List.count_cons_of_ne (Ne.symm ne)] at this
    simpa only [tokens, send_arena] using this
  holding t outcome' arrived := by
    by_cases ht : t = token
    · subst ht
      exact send_holding (h.not_holding outcome') arrived
    · rw [send_mailboxes_of_ne outcome ht] at arrived
      exact send_deliveries_subset token outcome x (h.holding t outcome' arrived)
  owners b := by
    rw [send_bridges, slotBridges, send_arena]
    exact h.owners b
  engine b := by rw [send_bridges]; exact h.engine b
  frees b := by rw [send_bridges]; exact h.frees b

end Books

end Exchange

end EngineBridge
