import EngineBridge.Proofs.Calls.Completion
import Mathlib.Algebra.Group.Nat.Defs
/-!
# What a `PendingCalls::resume` that fails says

The arena keeps no tokens that were resumed, and yet tells a token that was resumed before from one
that was never issued (`resumes_are_diagnosed`).  What carries this is `Recounts`: the tokens that
were issued are those from one up to the next one, and those of them that were not resumed have a
slot.

A `TokenUse` is what somebody does with a token: a call of any bridge is registered, which issues
one, an outcome is delivered for one, or its caller leaves the receiving end.  What each use came to
is listed beside the arena: the list tells which tokens were issued and which of them were resumed.
-/

namespace EngineBridge

/-! ## Uses of tokens -/

/-- What somebody does with a token. -/
inductive TokenUse where
  /-- A call of a bridge is registered. -/
  | register (bridge : BridgeId)
  /-- An outcome is delivered for a token, whoever made it up. -/
  | resume (token : Token) (outcome : Outcome)
  /-- The caller who waits for a token collects what has arrived, or drops the call. -/
  | leave (token : Token)

inductive TokenRecord where
  | issued (token : Token)
  | resumed (token : Token) (result : Except Violation Resumed)
  | left (token : Token)

namespace TokenRecord

/-- The token that was issued. -/
def issued? : TokenRecord → Option Token
  | issued token => some token
  | _ => none

/-- The token that was resumed; an attempt that failed resumed none. -/
def resumed? : TokenRecord → Option Token
  | resumed token (.ok _) => some token
  | _ => none

end TokenRecord

def issuedTokens (history : List TokenRecord) : List Token := history.filterMap (·.issued?)

def resumedTokens (history : List TokenRecord) : List Token := history.filterMap (·.resumed?)

namespace Exchange

variable {σ : Type}

def useToken (use : TokenUse) (x : Exchange σ) : TokenRecord × Exchange σ :=
  match use with
  | .register bridge =>
    let (token, x) := x.register bridge
    (.issued token, x)
  | .resume token outcome =>
    let (result, x) := x.resume token outcome
    (.resumed token result, x)
  | .leave token => (.left token, x.close token)

/-- Uses of tokens in order, and what they come to. -/
def useTokens : List TokenUse → Exchange σ → List TokenRecord × Exchange σ
  | [], x => ([], x)
  | use :: uses, x =>
    let (record, x) := x.useToken use
    let (records, x) := useTokens uses x
    (record :: records, x)

end Exchange

variable {σ : Type} {history : List TokenRecord} {record : TokenRecord}

/-! ## What uses came to -/

theorem issuedTokens_concat :
    issuedTokens (history ++ [record]) = issuedTokens history ++ record.issued?.toList := by
  rw [issuedTokens, List.filterMap_append]
  cases record <;> rfl

theorem resumedTokens_concat :
    resumedTokens (history ++ [record]) = resumedTokens history ++ record.resumed?.toList := by
  rw [resumedTokens, List.filterMap_append]
  rcases record with _ | ⟨token, _ | _⟩ | _ <;> rfl

namespace Exchange

variable {x : Exchange σ} {token : Token} {bridge : BridgeId} {outcome : Outcome}

/-! ## Resuming -/

theorem resume_unheld (absent : x.arena.find? token = none) (outcome : Outcome) :
    x.resume token outcome = (.error (x.arena.diagnose token), x) := by
  rw [resume, Arena.retire, Arena.removeSlot, absent]

theorem removeSlot_unheld {arena : Arena} (absent : arena.find? token = none) :
    arena.removeSlot token = (none, arena) := by
  have kept : (arena.slots.filter fun slot => slot.1 ≠ token) = arena.slots := by
    refine List.filter_eq_self.2 fun slot member => ?_
    have other : slot.1 ≠ token := by
      rintro rfl
      exact lookup_eq_none_iff.1 absent (List.mem_map_of_mem member)
    simpa using other
  rw [Arena.removeSlot, absent, kept]

/-- A token whose slot is gone is told from one that was never issued by the next token alone. -/
theorem diagnose_cases (arena : Arena) (token : Token) :
    (1 ≤ token ∧ token < arena.nextToken ∧ arena.diagnose token = .doubleResume token) ∨
      (¬ (1 ≤ token ∧ token < arena.nextToken) ∧ arena.diagnose token = .unknownToken token) := by
  unfold Arena.diagnose
  split
  · rename_i issued
    exact .inl ⟨Nat.one_le_iff_ne_zero.2 issued.1, issued.2, rfl⟩
  · rename_i unissued
    refine .inr ⟨?_, rfl⟩
    rintro ⟨positive, below⟩
    exact unissued ⟨Nat.one_le_iff_ne_zero.1 positive, below⟩

/-! ## The arena and the uses that led to it -/

/-- What an arena knows of the uses that led to it. -/
structure Recounts (history : List TokenRecord) (arena : Arena) : Prop where
  /-- Tokens are issued from one upward. -/
  issued : issuedTokens history = List.range' 1 (issuedTokens history).length
  next : arena.nextToken = (issuedTokens history).length + 1
  /-- Nothing but issued tokens is resumed. -/
  resumed : resumedTokens history ⊆ issuedTokens history
  /-- The tokens that are issued and not resumed have a slot. -/
  held : ∀ token, (arena.find? token).isSome ↔
    token ∈ issuedTokens history ∧ token ∉ resumedTokens history

namespace Recounts

variable {arena : Arena}

theorem initial : Recounts [] Arena.initial where
  issued := rfl
  next := rfl
  resumed := List.nil_subset _
  held token := by simp [Arena.find?, Arena.initial, issuedTokens]

theorem mem_issued_iff (h : Recounts history arena) :
    token ∈ issuedTokens history ↔ 1 ≤ token ∧ token < arena.nextToken := by
  rw [h.issued, List.mem_range'_1, h.next, Nat.add_comm 1]

/-- The next token is the one behind those that were issued. -/
theorem next_not_issued (h : Recounts history arena) :
    arena.nextToken ∉ issuedTokens history := by
  rw [h.mem_issued_iff]
  exact fun issued => Nat.lt_irrefl _ issued.2

theorem register (h : Recounts history x.arena) (bridge : BridgeId) :
    Recounts (history ++ [(.issued (x.register bridge).1)]) (x.register bridge).2.arena := by
  have issued : issuedTokens (history ++ [.issued (x.register bridge).1]) =
      issuedTokens history ++ [x.arena.nextToken] := issuedTokens_concat
  have resumed : resumedTokens (history ++ [.issued (x.register bridge).1]) =
      resumedTokens history := by
    rw [resumedTokens_concat]
    exact List.append_nil _
  refine ⟨?_, ?_, ?_, fun token => ?_⟩
  · rw [issued, List.length_append, List.length_singleton, List.range'_1_concat, ← h.issued, h.next,
      Nat.add_comm 1]
  · rw [register_nextToken, h.next, issued, List.length_append, List.length_singleton]
  · rw [issued, resumed]
    exact List.Subset.trans h.resumed (List.subset_append_left _ _)
  · rw [issued, resumed, Arena.find?, register_slots, List.mem_append, List.mem_singleton]
    by_cases new : token = x.arena.nextToken
    · -- nobody can have resumed the token before it was issued
      have fresh : token ∉ resumedTokens history := fun member =>
        h.next_not_issued (new ▸ h.resumed member)
      subst new
      simp [fresh]
    · rw [List.lookup_cons, beq_false_of_ne new, ← Arena.find?, h.held]
      simp [new]

/-- A call is resumed: its slot goes, and no other. -/
theorem resume (h : Recounts history x.arena) {resumed : Resumed}
    (found : x.arena.find? token = some bridge) {arena : Arena}
    (next : arena.nextToken = x.arena.nextToken)
    (slots : arena.slots = x.arena.slots.filter fun slot => slot.1 ≠ token) :
    Recounts (history ++ [.resumed token (.ok resumed)]) arena := by
  have issued : issuedTokens (history ++ [.resumed token (.ok resumed)]) =
      issuedTokens history := by
    rw [issuedTokens_concat]
    exact List.append_nil _
  have gone : resumedTokens (history ++ [.resumed token (.ok resumed)]) =
      resumedTokens history ++ [token] := resumedTokens_concat
  have wasHeld : token ∈ issuedTokens history := ((h.held token).1 (by rw [found]; rfl)).1
  refine ⟨?_, ?_, ?_, fun other => ?_⟩
  · rw [issued, ← h.issued]
  · rw [issued, next, h.next]
  · rw [issued, gone]
    exact List.append_subset.2 ⟨h.resumed, by simpa using wasHeld⟩
  · rw [issued, gone, Arena.find?, slots, List.mem_append, List.mem_singleton]
    by_cases same : other = token
    · subst same
      rw [lookup_filter_self]
      simp
    · rw [lookup_filter_ne same, ← Arena.find?, h.held]
      simp [same]

theorem idle (h : Recounts history arena) (issued : record.issued? = none)
    (resumed : record.resumed? = none) : Recounts (history ++ [record]) arena := by
  have sameIssued : issuedTokens (history ++ [record]) = issuedTokens history := by
    rw [issuedTokens_concat, issued]
    exact List.append_nil _
  have sameResumed : resumedTokens (history ++ [record]) = resumedTokens history := by
    rw [resumedTokens_concat, resumed]
    exact List.append_nil _
  constructor
  · rw [sameIssued, ← h.issued]
  · rw [sameIssued, h.next]
  · rw [sameIssued, sameResumed]
    exact h.resumed
  · rw [sameIssued, sameResumed]
    exact h.held

end Recounts

/-- **A use is recounted.** -/
theorem useToken_recounts (h : Recounts history x.arena) (use : TokenUse) :
    Recounts (history ++ [(x.useToken use).1]) (x.useToken use).2.arena := by
  cases use with
  | register bridge => exact h.register bridge
  | leave token => exact h.idle rfl rfl
  | resume token outcome =>
    rw [useToken]
    cases found : x.arena.find? token with
    | none =>
      rw [resume_unheld found]
      exact h.idle rfl rfl
    | some bridge =>
      obtain ⟨y, resumes, arena, -⟩ := resume_held found outcome
      rw [resumes]
      have after : ((y.send token outcome).2.release bridge).arena = y.arena := send_arena _ _ _
      refine h.resume found ?_ ?_
      · rw [after, arena]
      · rw [after, arena]

/-- **All uses are recounted.** -/
theorem useTokens_recount (uses : List TokenUse) :
    ∀ {history : List TokenRecord} {x : Exchange σ}, Recounts history x.arena →
      Recounts (history ++ (x.useTokens uses).1) (x.useTokens uses).2.arena := by
  induction uses with
  | nil =>
    intro history x h
    rw [useTokens, List.append_nil]
    exact h
  | cons use uses ih =>
    intro history x h
    have rest := ih (useToken_recounts h use)
    rw [List.append_assoc] at rest
    exact rest

/-! ## Every token is told what it is -/

/-- What resuming any token comes to, and what it says of the token's past. -/
structure Diagnoses (history : List TokenRecord) (x : Exchange σ) : Prop where
  /-- A resume succeeds for the tokens that were issued and not resumed. -/
  succeeds : ∀ token outcome, (∃ resumed, (x.resume token outcome).1 = .ok resumed) ↔
    token ∈ issuedTokens history ∧ token ∉ resumedTokens history
  /-- It is a second one for those that were issued and resumed. -/
  twice : ∀ token outcome, (x.resume token outcome).1 = .error (.doubleResume token) ↔
    token ∈ issuedTokens history ∧ token ∈ resumedTokens history
  /-- It is for no call at all for all others. -/
  unknown : ∀ token outcome, (x.resume token outcome).1 = .error (.unknownToken token) ↔
    token ∉ issuedTokens history
  positive : ∀ token ∈ issuedTokens history, token ≠ 0
  distinct : (issuedTokens history).Nodup
  /-- A resume that fails removes no slot, and leaves the slots, all counts, the next token and the
  receiving ends of all callers as they were. -/
  fails : ∀ token outcome violation y, x.resume token outcome = (.error violation, y) →
    x.arena.removeSlot token = (none, x.arena) ∧ y = x
  /-- Words of 64 bits are enough for the tokens as long as fewer than 2^64 - 1 calls were
  registered. -/
  words : (issuedTokens history).length < 2 ^ 64 - 1 →
    x.arena.nextToken < 2 ^ 64 ∧ ∀ token ∈ issuedTokens history, token < 2 ^ 64

/-- What a resume answers is read off the past of the token. -/
theorem Recounts.resume_cases (h : Recounts history x.arena) (token : Token) (outcome : Outcome) :
    (token ∈ issuedTokens history ∧ token ∉ resumedTokens history ∧
        ∃ resumed, (x.resume token outcome).1 = .ok resumed) ∨
      (token ∈ issuedTokens history ∧ token ∈ resumedTokens history ∧
        (x.resume token outcome).1 = .error (.doubleResume token)) ∨
      (token ∉ issuedTokens history ∧
        (x.resume token outcome).1 = .error (.unknownToken token)) := by
  have held := h.held token
  cases found : x.arena.find? token with
  | some bridge =>
    rw [found] at held
    obtain ⟨issued, unresumed⟩ := held.1 rfl
    obtain ⟨y, resumes, -⟩ := resume_held found outcome
    exact .inl ⟨issued, unresumed, _, congrArg Prod.fst resumes⟩
  | none =>
    rw [resume_unheld found]
    rcases diagnose_cases x.arena token with ⟨positive, below, twice⟩ | ⟨unissued, unknown⟩
    · have issued := h.mem_issued_iff.2 ⟨positive, below⟩
      have resumed : token ∈ resumedTokens history := by
        by_contra unresumed
        rw [found] at held
        cases held.2 ⟨issued, unresumed⟩
      exact .inr (.inl ⟨issued, resumed, by rw [twice]⟩)
    · exact .inr (.inr ⟨fun issued => unissued (h.mem_issued_iff.1 issued), by rw [unknown]⟩)

/-- **A resume tells what its token is**, whatever calls of whichever bridges were registered before
and whatever tokens resumed. -/
theorem resumes_are_diagnosed (native : σ) (engines : BridgeId → EngineHandle)
    (uses : List TokenUse) :
    Diagnoses ((initial native engines).useTokens uses).1
      ((initial native engines).useTokens uses).2 := by
  have recounts := useTokens_recount uses
    (show Recounts [] (initial native engines).arena from .initial)
  rw [List.nil_append] at recounts
  generalize (initial native engines).useTokens uses = after at recounts
  obtain ⟨history, x⟩ := after
  have told (token : Token) (outcome : Outcome) := recounts.resume_cases token outcome
  refine ⟨fun token outcome => ?_, fun token outcome => ?_, fun token outcome => ?_, ?_, ?_, ?_, ?_⟩
  · rcases told token outcome with ⟨issued, fresh, _, done⟩ | ⟨-, resumed, failed⟩ | ⟨other, failed⟩
    · simp [issued, fresh, done]
    · simp [resumed, failed]
    · simp [other, failed]
  · rcases told token outcome with ⟨-, fresh, _, done⟩ | ⟨issued, resumed, failed⟩ | ⟨other, failed⟩
    · simp [fresh, done]
    · simp [issued, resumed, failed]
    · simp [other, failed]
  · rcases told token outcome with ⟨issued, -, _, done⟩ | ⟨issued, -, failed⟩ | ⟨other, failed⟩
    · simp [issued, done]
    · simp [issued, failed]
    · simp [other, failed]
  · intro token issued
    have bounds := recounts.mem_issued_iff.1 issued
    exact Nat.one_le_iff_ne_zero.1 bounds.1
  · rw [recounts.issued]
    exact List.nodup_range'
  · intro token outcome violation y failed
    cases found : x.arena.find? token with
    | none => exact ⟨removeSlot_unheld found, resume_error failed⟩
    | some bridge =>
      obtain ⟨z, resumes, -⟩ := resume_held found outcome
      rw [failed] at resumes
      cases resumes
  · intro few
    have next : x.arena.nextToken < 2 ^ 64 := by
      rw [recounts.next]
      exact Nat.add_lt_of_lt_sub few
    exact ⟨next, fun token issued => Nat.lt_trans (recounts.mem_issued_iff.1 issued).2 next⟩

/-- Of two calls the first is resumed twice, and the second after its caller left. -/
example : ((initial Script.empty fun _ => .owned 1).useTokens
    [.register 0, .register 1, .resume 1 (.ok "answer"), .leave 2, .resume 1 (.ok "again"),
      .resume 2 (.ok "late"), .resume 0 (.ok "none"), .resume 3 (.ok "early")]).1.filterMap
        (fun
          | .resumed _ (.error violation) => some violation
          | _ => none) =
    [Violation.doubleResume 1, .unknownToken 0, .unknownToken 3] := rfl

end Exchange

end EngineBridge
