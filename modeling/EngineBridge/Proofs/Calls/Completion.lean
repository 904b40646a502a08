import EngineBridge.Proofs.Calls.Stages
import EngineBridge.Proofs.Calls.Traffic
import EngineBridge.Proofs.Native.Recorded
/-!
# What a callback comes to: `on_complete`

`callback_classified`: what happens when an engine calls back with any token, status and response,
whatever its library leaves as the detail, in every arena that comes about.  Without a slot the
process ends before anything is read.  With one, `Judges` says what the callback reports and which
calls the library gets for it, and `Hands` what is handed over: one slot is retired, its call is
counted off and sent the outcome, and all others stay as they are.

A callback that breaks the rules ends the process, and `complete` says only for which breach.
`callBack` also says how far the callback had come: it keeps the exchange as the end of the process
finds it.  On an exchange whose native side is noted it shows as well what the callback asked of
the library.
-/

namespace EngineBridge

/-- The arenas that come about from nothing, whoever acts. -/
inductive Arena.Reached : Arena → Prop where
  /-- Callers and engines act, and callbacks may be at any stage. -/
  | world {σ : Type} {libraries : BridgeId → NativeLibrary σ} {native : σ}
    {engines : BridgeId → EngineHandle} {actions : List (Action σ)} {answers : List Answer}
    {w : World σ} (ran : World.run libraries actions (.initial native engines) = .ok (answers, w)) :
    Reached w.exchange.arena
  /-- Threads act that may be in the middle of registering or resuming. -/
  | traffic {σ : Type} {libraries : BridgeId → NativeLibrary σ} {native : σ}
    {engines : BridgeId → EngineHandle} {acts : List Traffic.Act} {answers : List Answer}
    {t : Traffic σ} (ran : Traffic.run libraries acts (.initial native engines) = .ok (answers, t)) :
    Reached t.exchange.arena

namespace Exchange

variable {σ : Type}

/-- Processes a callback of the engine, and answers what it came to and the exchange when it
ended. -/
def callBack (libraries : BridgeId → NativeLibrary σ) (callback : Callback) (x : Exchange σ) :
    Except Violation Resumed × Exchange σ :=
  let x := x.enter callback.context
  match x.lookUp callback.context with
  | .error violation => (.error violation, x)
  | .ok (bridge, x) =>
    let (outcome, native) := classify (libraries bridge) callback x.native
    let x := { x with native := native }.release bridge
    match outcome with
    | .error violation => (.error violation, x)
    | .ok outcome => x.resume callback.context outcome

/-- The exchange with a list of the calls that libraries got. -/
def noted (calls : List NativeCall) (x : Exchange σ) : Exchange (σ × List NativeCall) :=
  { x with native := (x.native, calls) }

end Exchange

variable {σ : Type}

/-! ## Arenas that come about -/

namespace Arena.Reached

variable {arena : Arena}

theorem once (h : arena.Reached) (token : Token) : (arena.slots.map Prod.fst).count token ≤ 1 := by
  cases h with
  | world ran =>
    have books := World.run_sound (World.initial_sound _ _) ran
    have once := books.once token
    rw [Exchange.tokens] at once
    omega
  | traffic ran =>
    have tallied := Traffic.run_tallied (Traffic.initial_tallied _ _) ran
    have once := tallied.once token
    rw [Exchange.places, Exchange.tokens] at once
    omega

theorem counted (h : arena.Reached) (bridge : BridgeId) :
    (arena.slots.map Prod.snd).count bridge ≤ arena.inFlight bridge := by
  cases h with
  | world ran =>
    have flies := World.run_flying (World.initial_flying _ _) (World.initial_sound _ _) ran
    rw [flies bridge, Exchange.slotBridges]
    exact Nat.le_add_right _ _
  | traffic ran =>
    have tallied := Traffic.run_tallied (Traffic.initial_tallied _ _) ran
    rw [tallied.flies bridge, Exchange.slotBridges]
    exact Nat.le_add_right _ _

end Arena.Reached

/-! ## What a callback reports -/

/-- What a callback that finds its call reports, or how it ends the process, and the calls that the
library gets for it. -/
inductive Judges (library : NativeLibrary σ) (callback : Callback) (s : σ) :
    Except Violation Outcome → List NativeCall → Prop where
  /-- Success without a response. -/
  | missing (good : callback.status = Status.ok) (null : callback.response = none) :
    Judges library callback s (.error (.missingResult "execute")) []
  /-- Success with a response that is a text. -/
  | answers {sent : CText} {text : String} (good : callback.status = Status.ok)
    (given : callback.response = some sent) (is : sent.bytes = Utf8.encode text) :
    Judges library callback s (.ok (.ok text)) []
  /-- Success with a response that is no text. -/
  | unreadable {sent : CText} {reason : String} (good : callback.status = Status.ok)
    (given : callback.response = some sent) (noText : ∀ text, sent.bytes ≠ Utf8.encode text) :
    Judges library callback s (.ok (.error (.invalidText reason))) []
  /-- Failure, and the slots of the detail break the rules. -/
  | breaks {length : Nat} (bad : callback.status ≠ Status.ok)
    (slots : (library.takeLastError callback.thread s).1 = .null (length + 1)) :
    Judges library callback s (.error (.nullBuffer (length + 1))) [.takeLastError callback.thread]
  /-- Failure, with or without a detail; the response is not looked at. -/
  | fails {detail : Option Buffer} {record : ErrorDetail} (bad : callback.status ≠ Status.ok)
    (slots : (library.takeLastError callback.thread s).1.take = .ok detail)
    (is : failureOf callback.status (detail.map Buffer.lossyText) =
      .nativeStatus callback.status record) :
    Judges library callback s (.ok (.error (.nativeStatus callback.status record)))
      (.takeLastError callback.thread :: detail.toList.map .release)

/-- A text from the engine is the one of which it has the bytes, if there is one. -/
theorem readCText_cases (sent : CText) :
    (∃ text, sent.bytes = Utf8.encode text ∧ readCText sent = .ok text) ∨
      (∀ text, sent.bytes ≠ Utf8.encode text) ∧
        ∃ reason, readCText sent = .error (.invalidText reason) := by
  cases decoded : sent.decode with
  | ok text => exact .inl ⟨text, Utf8.decode_ok_iff.1 decoded, by rw [readCText, decoded]⟩
  | error fault =>
    refine .inr ⟨fun text is => ?_, _, by rw [readCText, decoded]⟩
    rw [CText.decode, Utf8.decode_ok_iff.2 is] at decoded
    cases decoded

namespace Exchange

theorem classify_recorded (library : NativeLibrary σ) (callback : Callback) (s : σ)
    (log : List NativeCall) :
    ∃ verdict s' calls, classify library callback s = (verdict, s') ∧
      classify library.recorded callback (s, log) = (verdict, s', log ++ calls) ∧
      Judges library callback s verdict calls := by
  by_cases good : callback.status = Status.ok
  · have reads {τ : Type} (library : NativeLibrary τ) (s : τ) :
        checkStatus callback.status (library.readDetail callback.thread) s = (.ok (), s) :=
      if_pos good
    cases given : callback.response with
    | none =>
      refine ⟨_, s, [], ?_, ?_, .missing good given⟩ <;>
        simp only [classify, reads, given, List.append_nil]
    | some sent =>
      rcases readCText_cases sent with ⟨text, is, read⟩ | ⟨noText, reason, read⟩
      · refine ⟨_, s, [], ?_, ?_, .answers good given is⟩ <;>
          simp only [classify, reads, given, read, List.append_nil]
      · refine ⟨.ok (.error (.invalidText reason)), s, [], ?_, ?_, .unreadable good given noText⟩ <;>
          simp only [classify, reads, given, read, List.append_nil]
  · obtain ⟨read, s', reads, noted, broken, whole⟩ :=
      library.readDetail_recorded callback.thread s log
    have fails := NativeLibrary.checkStatus_failed good reads
    have failsNoted := NativeLibrary.checkStatus_failed good noted
    rcases (library.takeLastError callback.thread s).1.take_cases with
      ⟨length, slots⟩ | ⟨-, detail, slots, holds⟩
    · rw [broken length slots] at fails failsNoted
      refine ⟨_, s', _, ?_, ?_, .breaks good slots⟩
      · simp only [classify, fails, NativeLibrary.detailFailure]
      · simp only [classify, failsNoted, NativeLibrary.detailFailure, slots, OutSlots.buffers,
          List.map_nil]
    · obtain ⟨record, is⟩ := NativeLibrary.failureOf_status callback.status
        (detail.map Buffer.lossyText)
      rw [whole detail slots] at fails failsNoted
      refine ⟨_, s', _, ?_, ?_, .fails good slots is⟩
      · simp only [classify, fails, NativeLibrary.detailFailure, is]
      · simp only [classify, failsNoted, NativeLibrary.detailFailure, holds, is]

/-! ## What is handed over -/

variable {x : Exchange σ} {token : Token} {bridge : BridgeId} {outcome : Outcome}

/-- What changes between `x` and `y` when the call under a token gets its outcome. -/
structure Hands (x y : Exchange σ) (token : Token) (bridge : BridgeId) (outcome : Outcome)
    (resumed : Resumed) : Prop where
  /-- One slot is retired. -/
  slots : x.arena.slots.Perm ((token, bridge) :: y.arena.slots)
  retired : y.arena.find? token = none
  others : ∀ other ≠ token, y.arena.find? other = x.arena.find? other
  next : y.arena.nextToken = x.arena.nextToken
  /-- One call of its bridge is counted off. -/
  counted : y.arena.inFlight bridge + 1 = x.arena.inFlight bridge
  counts : ∀ other ≠ bridge, y.arena.inFlight other = x.arena.inFlight other
  /-- One outcome is sent, to whoever waits for it. -/
  sent : y.deliveries = ⟨token, outcome, resumed⟩ :: x.deliveries
  received : x.mailboxes token = .waiting →
    resumed = .delivered ∧ y.mailboxes token = .holding outcome
  unreceived : x.mailboxes token ≠ .waiting →
    resumed = .abandoned ∧ y.mailboxes token = x.mailboxes token
  mailboxes : ∀ other ≠ token, y.mailboxes other = x.mailboxes other
  /-- The owners of other bridges do not change. -/
  bridges : ∀ other ≠ bridge, y.bridges other = x.bridges other

theorem lookup_filter_ne {other : Token} (ne : other ≠ token) (slots : List (Token × BridgeId)) :
    (slots.filter fun slot => slot.1 ≠ token).lookup other = slots.lookup other := by
  induction slots with
  | nil => rfl
  | cons slot slots ih =>
    obtain ⟨t, b⟩ := slot
    by_cases same : t = token
    · subst same
      rw [List.filter_cons_of_neg (by simp), List.lookup_cons, beq_false_of_ne ne, ih]
    · rw [List.filter_cons_of_pos (by simpa using same), List.lookup_cons, List.lookup_cons, ih]

theorem lookup_filter_self (slots : List (Token × BridgeId)) :
    (slots.filter fun slot => slot.1 ≠ token).lookup token = none := by
  refine lookup_eq_none_iff.2 fun member => ?_
  obtain ⟨slot, kept, is⟩ := List.mem_map.1 member
  simp [is] at kept

/-- Resuming a call with a slot sends its outcome when the slot is retired and counted off. -/
theorem resume_held (found : x.arena.find? token = some bridge) (outcome : Outcome) :
    ∃ y : Exchange σ, x.resume token outcome =
        (.ok (y.send token outcome).1, (y.send token outcome).2.release bridge) ∧
      y.arena = { x.arena with
        slots := x.arena.slots.filter fun slot => slot.1 ≠ token
        inFlight := setAt x.arena.inFlight bridge (x.arena.inFlight bridge - 1) } ∧
      y.mailboxes = x.mailboxes ∧ y.deliveries = x.deliveries ∧ y.bridges = x.bridges := by
  refine ⟨lower bridge { x with
    arena := { x.arena with slots := x.arena.slots.filter fun slot => slot.1 ≠ token } }, ?_,
    rfl, rfl, rfl, rfl⟩
  simp only [resume_eq, takeSlot, Arena.removeSlot, found]

/-- Resuming a call with a slot hands its outcome over. -/
theorem resume_hands (found : x.arena.find? token = some bridge)
    (once : (x.arena.slots.map Prod.fst).count token ≤ 1)
    (counted : (x.arena.slots.map Prod.snd).count bridge ≤ x.arena.inFlight bridge)
    (outcome : Outcome) :
    ∃ resumed y, x.resume token outcome = (.ok resumed, y) ∧
      Hands x y token bridge outcome resumed := by
  have owns : bridge ∈ x.arena.slots.map Prod.snd :=
    List.mem_map_of_mem (f := Prod.snd) (lookup_mem found)
  have positive := Nat.lt_of_lt_of_le (List.count_pos_iff.2 owns) counted
  obtain ⟨y, resumes, arena, mailboxes, deliveries, bridges⟩ := resume_held found outcome
  have sent : ((y.send token outcome).2.release bridge).arena = y.arena := send_arena _ _ _
  rw [arena] at sent
  refine ⟨_, _, resumes, ?_⟩
  constructor
  · rw [sent]
    exact perm_of_lookup found once
  · rw [sent]
    exact lookup_filter_self _
  · intro other ne
    rw [sent]
    exact lookup_filter_ne ne _
  · rw [sent]
  · rw [sent]
    simp only [setAt_apply, if_true]
    omega
  · intro other ne
    rw [sent]
    simp only [setAt_apply, if_neg ne]
  · rw [release, send_deliveries, deliveries]
  · intro waits
    rw [← mailboxes] at waits
    simp only [send, waits, release, setAt_apply, if_true, and_self]
  · intro away
    rw [← mailboxes] at away ⊢
    unfold send
    split
    · contradiction
    · exact ⟨rfl, rfl⟩
  · intro other ne
    rw [release, send_mailboxes_of_ne outcome ne, mailboxes]
  · intro other ne
    simp only [release, send_bridges, setAt_apply, if_neg ne, bridges]

/-- Only what a resume changes matters for what is handed over. -/
theorem Hands.of_same {z y : Exchange σ} {resumed : Resumed}
    (h : Hands z y token bridge outcome resumed) (arena : z.arena = x.arena)
    (mailboxes : z.mailboxes = x.mailboxes) (deliveries : z.deliveries = x.deliveries)
    (bridges : ∀ other ≠ bridge, z.bridges other = x.bridges other) :
    Hands x y token bridge outcome resumed where
  slots := arena ▸ h.slots
  retired := h.retired
  others := arena ▸ h.others
  next := arena ▸ h.next
  counted := arena ▸ h.counted
  counts := arena ▸ h.counts
  sent := deliveries ▸ h.sent
  received := mailboxes ▸ h.received
  unreceived := mailboxes ▸ h.unreceived
  mailboxes := mailboxes ▸ h.mailboxes
  bridges other ne := (h.bridges other ne).trans (bridges other ne)

/-! ## Callbacks -/

/-- The exchange when a callback has its report and has let the bridge go. -/
def reported (callback : Callback) (bridge : BridgeId) (native : σ) (x : Exchange σ) : Exchange σ :=
  release bridge { (x.enter callback.context).retain bridge with native := native }

section

variable (libraries : BridgeId → NativeLibrary σ) {callback : Callback}

theorem callBack_unheld (absent : x.arena.find? callback.context = none) :
    x.callBack libraries callback =
      (.error (x.arena.diagnose callback.context), x.enter callback.context) := by
  have looked : (x.enter callback.context).lookUp callback.context =
      .error (x.arena.diagnose callback.context) := by
    rw [lookUp, show (x.enter callback.context).arena = x.arena from rfl, absent]
  rw [callBack, looked]

theorem callBack_held (found : x.arena.find? callback.context = some bridge)
    {verdict : Except Violation Outcome} {native : σ}
    (classified : classify (libraries bridge) callback x.native = (verdict, native)) :
    x.callBack libraries callback = match verdict with
      | .error violation => (.error violation, x.reported callback bridge native)
      | .ok outcome => (x.reported callback bridge native).resume callback.context outcome := by
  have looked : (x.enter callback.context).lookUp callback.context =
      .ok (bridge, (x.enter callback.context).retain bridge) := by
    rw [lookUp, show (x.enter callback.context).arena = x.arena from rfl, found]
  have classified' : classify (libraries bridge) callback
      ((x.enter callback.context).retain bridge).native = (verdict, native) := classified
  rw [callBack, looked]
  simp only [classified']
  cases verdict <;> rfl

/-- A callback that ends well ends in `complete`'s exchange, any other in its breach. -/
theorem complete_eq_callBack (callback : Callback) (x : Exchange σ) :
    x.complete libraries callback =
      (x.callBack libraries callback).1.map fun _ => (x.callBack libraries callback).2 := by
  unfold complete callBack
  cases looked : lookUp callback.context (enter callback.context x) with
  | error violation => simp only [looked, Except.map]
  | ok state =>
    obtain ⟨bridge, y⟩ := state
    rcases classified : classify (libraries bridge) callback y.native with
      ⟨violation | outcome, native⟩
    · simp only [looked, classified, Except.map]
    · simp only [looked, classified]
      rcases resume callback.context outcome _ with ⟨violation | resumed, z⟩ <;> rfl

end

theorem resume_noted (token : Token) (outcome : Outcome) (x : Exchange σ)
    (calls : List NativeCall) :
    (x.noted calls).resume token outcome =
      ((x.resume token outcome).1, (x.resume token outcome).2.noted calls) := by
  have arena : (x.noted calls).arena = x.arena := rfl
  simp only [resume, arena]
  rcases x.arena.retire token with ⟨violation | bridge, next⟩
  · rfl
  · have mailboxes : (x.noted calls).mailboxes = x.mailboxes := rfl
    simp only [send, mailboxes]
    cases x.mailboxes token <;> rfl

/-- What a callback for a token comes to, how it leaves the exchange, and which calls its library
gets. -/
inductive Classified (libraries : BridgeId → NativeLibrary σ) (callback : Callback)
    (x : Exchange σ) : Except Violation Resumed → Exchange σ → List NativeCall → Prop where
  /-- The call was answered before. -/
  | answered (retired : x.arena.find? callback.context = none)
    (positive : 0 < callback.context) (issued : callback.context < x.arena.nextToken) :
    Classified libraries callback x (.error (.doubleResume callback.context))
      (x.enter callback.context) []
  /-- There never was such a call. -/
  | unknown (absent : x.arena.find? callback.context = none)
    (unissued : callback.context = 0 ∨ x.arena.nextToken ≤ callback.context) :
    Classified libraries callback x (.error (.unknownToken callback.context))
      (x.enter callback.context) []
  /-- The callback ends the process, and nothing is handed over. -/
  | aborts {bridge : BridgeId} {violation : Violation} {y : Exchange σ} {calls : List NativeCall}
    (found : x.arena.find? callback.context = some bridge)
    (judged : Judges (libraries bridge) callback x.native (.error violation) calls)
    (arena : y.arena = x.arena) (mailboxes : y.mailboxes = x.mailboxes)
    (deliveries : y.deliveries = x.deliveries) :
    Classified libraries callback x (.error violation) y calls
  /-- What the callback reports is handed over. -/
  | hands {bridge : BridgeId} {outcome : Outcome} {resumed : Resumed} {y : Exchange σ}
    {calls : List NativeCall} (found : x.arena.find? callback.context = some bridge)
    (judged : Judges (libraries bridge) callback x.native (.ok outcome) calls)
    (handed : Hands x y callback.context bridge outcome resumed) :
    Classified libraries callback x (.ok resumed) y calls

/-- A callback for a token without a slot comes to nothing but a breach. -/
theorem classified_unheld (libraries : BridgeId → NativeLibrary σ) {callback : Callback}
    (absent : x.arena.find? callback.context = none) :
    Classified libraries callback x (.error (x.arena.diagnose callback.context))
      (x.enter callback.context) [] := by
  by_cases issued : callback.context ≠ 0 ∧ callback.context < x.arena.nextToken
  · rw [Arena.diagnose, if_pos issued]
    exact .answered absent (Nat.pos_of_ne_zero issued.1) issued.2
  · rw [Arena.diagnose, if_neg issued]
    exact .unknown absent (by
      rcases Nat.eq_zero_or_pos callback.context with zero | positive
      · exact .inl zero
      · exact .inr (Nat.le_of_not_lt fun less => issued ⟨Nat.ne_of_gt positive, less⟩))

/-- **A callback is classified**, in every arena that comes about, whatever it reports and whatever
the library leaves as its detail.  It is the same callback stage by stage. -/
theorem callback_classified (reached : x.arena.Reached)
    (libraries : BridgeId → NativeLibrary σ) (callback : Callback) :
    ∃ result y calls,
      (x.noted []).callBack (fun bridge => (libraries bridge).recorded) callback =
          (result, y.noted calls) ∧
        x.complete libraries callback = result.map (fun _ => y) ∧
        advanceMany libraries callback 9 (some .looking, x.enter callback.context) =
          result.map (fun _ => (none, y)) ∧
        Classified libraries callback x result y calls := by
  rw [advanceMany_eq_complete, complete_eq_callBack]
  cases found : x.arena.find? callback.context with
  | none =>
    have noted : (x.noted []).arena.find? callback.context = none := found
    rw [callBack_unheld libraries found, callBack_unheld _ noted]
    exact ⟨_, x.enter callback.context, [], rfl, rfl, rfl, classified_unheld libraries found⟩
  | some bridge =>
    obtain ⟨verdict, native, calls, classified, recorded, judged⟩ :=
      classify_recorded (libraries bridge) callback x.native []
    have noted : (x.noted []).arena.find? callback.context = some bridge := found
    have owners : ∀ other ≠ bridge,
        (x.reported callback bridge native).bridges other = x.bridges other := by
      intro other ne
      simp only [reported, release, retain, enter, setAt_apply, if_neg ne]
    rw [callBack_held libraries found classified, callBack_held _ noted recorded]
    cases verdict with
    | error violation => exact ⟨_, x.reported callback bridge native, calls, rfl, rfl, rfl,
        .aborts found judged rfl rfl rfl⟩
    | ok outcome =>
      obtain ⟨resumed, y, resumes, hands⟩ := resume_hands (x := x.reported callback bridge native)
        found (reached.once callback.context) (reached.counted bridge) outcome
      have notedResumes := resume_noted callback.context outcome
        (x.reported callback bridge native) calls
      rw [resumes] at notedResumes
      dsimp only
      rw [resumes]
      exact ⟨_, y, calls, notedResumes, rfl, rfl,
        .hands found judged (hands.of_same rfl rfl rfl owners)⟩

/-- A call of each of two bridges, the second of which is dropped. -/
def twoBridges : List (Action Script) :=
  [.start 0 "first" none, .poll 0 false, .start 1 "second" none, .poll 1 false, .drop 1]

/-- The engine fails the dropped call, with a response and a detail that is no text. -/
theorem callback_classified_dropped : ∃ answers w,
    World.run (fun _ => Script.library) twoBridges
        (.initial { Script.empty with detail := .bytes [255] } fun _ => .owned 1) =
      .ok (answers, w) ∧
    w.exchange.arena.Reached ∧
    ∃ y : Exchange Script, (w.exchange.noted []).callBack (fun _ => Script.library.recorded)
        ⟨5, 2, 7, some (.ofMemory [110, 111])⟩ =
      (.ok .abandoned, y.noted [.takeLastError 5, .release ⟨1, [255]⟩]) ∧
    y.arena.find? 2 = none ∧ y.arena.inFlight 0 = 1 ∧ y.arena.inFlight 1 = 0 := by
  obtain ⟨answers, w, ran, slot, mailbox, slots, first, second⟩ : ∃ answers w,
      World.run (fun _ => Script.library) twoBridges
          (.initial { Script.empty with detail := .bytes [255] } fun _ => .owned 1) =
        .ok (answers, w) ∧
      w.exchange.arena.find? 2 = some 1 ∧ w.exchange.mailboxes 2 = .closed ∧
      (Script.library.takeLastError 5 w.exchange.native).1 = .written ⟨1, [255]⟩ ∧
      w.exchange.arena.inFlight 0 = 1 ∧ w.exchange.arena.inFlight 1 = 1 :=
    ⟨_, _, rfl, rfl, rfl, rfl, rfl, rfl⟩
  obtain ⟨result, y, calls, ended, -, -, classified⟩ :=
    callback_classified (.world ran) (fun _ => Script.library)
      ⟨5, 2, 7, some (.ofMemory [110, 111])⟩
  refine ⟨answers, w, ran, .world ran, ?_⟩
  cases classified with
  | answered retired => rw [slot] at retired; cases retired
  | unknown absent => rw [slot] at absent; cases absent
  | aborts found judged =>
    cases judged with
    | missing good => cases good
    | breaks bad broken => rw [slots] at broken; cases broken
  | hands found judged handed =>
    cases slot.symm.trans found
    cases judged with
    | answers good => cases good
    | unreadable good => cases good
    | fails bad taken is =>
      rw [slots] at taken
      cases taken
      obtain ⟨rfl, -⟩ := handed.unreceived (by rw [mailbox]; nofun)
      have counted := handed.counted.trans second
      exact ⟨y, ended, handed.retired, (handed.counts 0 (by decide)).trans first,
        Nat.succ.inj counted⟩

end Exchange

end EngineBridge
