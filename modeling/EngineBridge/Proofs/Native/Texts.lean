import EngineBridge.Proofs.Calls.Completion
/-!
# Texts at the boundary: `to_c_text` and `read_c_text`

A text either crosses whole or is refused at its first nul (`toCText_crosses`).  The three
operations that send texts keep to that: `texts_cross_or_are_refused` says what they hand to the
engine, and that a refusal comes before anything else, so that it leaves nothing behind.
-/

namespace EngineBridge

variable {σ : Type}

/-! ## One text -/

/-- The first nul of a text, as the offset of its byte. -/
def FirstNul (text : String) (offset : Nat) : Prop :=
  ∃ before after, Utf8.encode text = before ++ 0 :: after ∧ 0 ∉ before ∧ before.length = offset

/-- A C text has the bytes of a text, and whoever reads it reads that text. -/
structure Arrives (text : String) (sent : CText) : Prop where
  bytes : sent.bytes = Utf8.encode text
  /-- In memory it ends where it should, whatever lies behind it. -/
  memory : ∀ beyond, CText.ofMemory (sent.toMemory ++ beyond) = sent
  /-- The engine reads it. -/
  engine : ∀ what, EngineSide.requiredText what (some sent) = .ok text
  /-- The bridge would read it too. -/
  bridge : readCText sent = .ok text

/-- What becomes of a text on its way to the engine. -/
inductive Crosses (text : String) : Except BridgeError CText → Prop where
  | whole {sent : CText} (arrives : Arrives text sent) : Crosses text (.ok sent)
  | refused {offset : Nat} (nul : FirstNul text offset) :
    Crosses text (.error (CText.refusal offset))

/-- What is read up to the first nul. -/
theorem takeWhile_plain {bytes : List UInt8} (plain : 0 ∉ bytes) (beyond : List UInt8) :
    (bytes ++ 0 :: beyond).takeWhile (fun byte => decide (byte ≠ 0)) = bytes := by
  have kept : ∀ byte ∈ bytes, decide (byte ≠ 0) = true := by
    intro byte member
    exact decide_eq_true fun zero => plain (zero ▸ member)
  rw [List.takeWhile_append_of_pos kept, List.takeWhile_cons_of_neg (by simp), List.append_nil]

theorem CText.ofMemory_toMemory (text : CText) (beyond : List UInt8) :
    ofMemory (text.toMemory ++ beyond) = text := by
  obtain ⟨bytes, noNul⟩ := text
  simp only [ofMemory, toMemory, List.append_assoc, List.singleton_append,
    takeWhile_plain noNul beyond]

theorem arrives_of_sent {text : String} {sent : CText} (h : toCText text = .ok sent) :
    Arrives text sent where
  bytes := toCText_bytes h
  memory := sent.ofMemory_toMemory
  engine what := by simp only [EngineSide.requiredText, EngineSide.textArgument, decode_toCText h]
  bridge := by simp only [readCText, decode_toCText h]

theorem exists_firstNul_iff {text : String} :
    (∃ offset, FirstNul text offset) ↔ '\x00' ∈ text.toList := by
  rw [← Utf8.zero_mem_encode_iff]
  constructor
  · rintro ⟨offset, before, after, is, -, -⟩
    rw [is]
    exact List.mem_append_right _ List.mem_cons_self
  · intro member
    obtain ⟨before, after, is, first⟩ := List.eq_append_cons_of_mem member
    exact ⟨_, before, after, is, first, rfl⟩

theorem FirstNul.offset_eq {text : String} {offset : Nat} (nul : FirstNul text offset) :
    offset = ((Utf8.encode text).takeWhile fun byte => decide (byte ≠ 0)).length := by
  obtain ⟨before, after, is, plain, rfl⟩ := nul
  rw [is, takeWhile_plain plain]

/-- A text whose first nul is at an offset is refused with that offset. -/
theorem toCText_of_firstNul {text : String} {offset : Nat} (nul : FirstNul text offset) :
    toCText text = .error (CText.refusal offset) := by
  obtain ⟨before, after, is, plain, rfl⟩ := nul
  have member : 0 ∈ Utf8.encode text := is ▸ List.mem_append_right _ List.mem_cons_self
  rw [toCText, CText.ofBytes, dif_pos member, is, takeWhile_plain plain]
  rfl

/-- **A text crosses whole, or is refused at its first nul.** -/
theorem toCText_crosses (text : String) : Crosses text (toCText text) := by
  by_cases nul : '\x00' ∈ text.toList
  · obtain ⟨offset, first⟩ := exists_firstNul_iff.2 nul
    rw [toCText_of_firstNul first]
    exact .refused first
  · obtain ⟨sent, is⟩ := toCText_ok nul
    rw [is]
    exact .whole (arrives_of_sent is)

/-! ## Texts of codec calls -/

/-- Whether a call hands a text to the engine. -/
def NativeCall.isHandOver : NativeCall → Bool
  | execute .. | codec .. => true
  | takeLastError _ | release _ => false

theorem NativeCall.Follows.isHandOver {thread : ThreadId} {call : NativeCall}
    (follows : call.Follows thread) : call.isHandOver = false := by
  cases call with
  | execute context request => exact follows.elim
  | codec caller arguments => exact follows.elim
  | _ => rfl

/-- What becomes of the texts of an encoding call: the tag is looked at first. -/
inductive Encodes (thread : ThreadId) (tag text : String) (s : σ) (log : List NativeCall) :
    Except Failure Buffer × σ × List NativeCall → Prop where
  | noTag {offset : Nat} (nul : FirstNul tag offset) :
    Encodes thread tag text s log (.error (.error (CText.refusal offset)), s, log)
  | noText {sentTag : CText} {offset : Nat} (arrives : Arrives tag sentTag)
    (nul : FirstNul text offset) :
    Encodes thread tag text s log (.error (.error (CText.refusal offset)), s, log)
  | sent {sentTag sentText : CText} {result : Except Failure Buffer} {s' : σ}
    {later : List NativeCall} (tagArrives : Arrives tag sentTag) (textArrives : Arrives text sentText)
    (once : ∀ call ∈ later, call.isHandOver = false) :
    Encodes thread tag text s log
      (result, s', log ++ .codec thread (.encode sentTag sentText) :: later)

/-- What becomes of the tag of a decoding call. -/
inductive Decodes (thread : ThreadId) (tag : String) (bytes : List UInt8) (s : σ)
    (log : List NativeCall) : Except Failure String × σ × List NativeCall → Prop where
  | noTag {offset : Nat} (nul : FirstNul tag offset) :
    Decodes thread tag bytes s log (.error (.error (CText.refusal offset)), s, log)
  | sent {sentTag : CText} {result : Except Failure String} {s' : σ} {later : List NativeCall}
    (tagArrives : Arrives tag sentTag) (once : ∀ call ∈ later, call.isHandOver = false) :
    Decodes thread tag bytes s log
      (result, s', log ++ .codec thread (.decode sentTag bytes) :: later)

namespace NativeLibrary

variable (library : NativeLibrary σ) (thread : ThreadId) (s : σ) (log : List NativeCall)

theorem codecResult_once (operation : String) (arguments : CodecArguments) (status : Status)
    (out : OutSlots) :
    ∃ result s' later,
      library.recorded.codecResult thread operation status out (s, log) =
        (result, s', log ++ later) ∧
      ∀ call ∈ later, call.isHandOver = false := by
  obtain ⟨result, s', later, -, noted, keeps⟩ :=
    library.codecResult_recorded thread operation arguments status out s log
  obtain ⟨calls, same, follows⟩ := keeps.asked
  refine ⟨result, s', later, noted, fun call member => (follows call ?_).isHandOver⟩
  rw [← (List.cons.inj same).2]
  exact List.mem_append_left _ member

theorem encodeRaw_encodes (tag text : String) :
    Encodes thread tag text s log (library.recorded.encodeRaw thread tag text (s, log)) := by
  have tagCrosses := toCText_crosses tag
  have textCrosses := toCText_crosses text
  rw [encodeRaw]
  generalize toCText tag = tagOnItsWay at tagCrosses ⊢
  generalize toCText text = textOnItsWay at textCrosses ⊢
  cases tagCrosses with
  | refused nul => exact .noTag nul
  | @whole sentTag tagArrives =>
    cases textCrosses with
    | refused nul => exact .noText tagArrives nul
    | @whole sentText textArrives =>
      rcases answered : library.encode thread sentTag sentText s with ⟨⟨status, out⟩, s'⟩
      obtain ⟨result, s'', later, is, once⟩ := library.codecResult_once thread s'
        (log ++ [.codec thread (.encode sentTag sentText)]) "encode" (.encode sentTag sentText)
        status out
      simp only [recorded, answered] at is ⊢
      rw [is, List.append_assoc]
      exact .sent tagArrives textArrives once

theorem decodeRaw_decodes (tag : String) (bytes : List UInt8) :
    Decodes thread tag bytes s log (library.recorded.decodeRaw thread tag bytes (s, log)) := by
  have tagCrosses := toCText_crosses tag
  rw [decodeRaw]
  generalize toCText tag = tagOnItsWay at tagCrosses ⊢
  cases tagCrosses with
  | refused nul => exact .noTag nul
  | @whole sentTag tagArrives =>
    rcases answered : library.decode thread sentTag bytes s with ⟨⟨status, out⟩, s'⟩
    obtain ⟨result, s'', later, is, once⟩ := library.codecResult_once thread s'
      (log ++ [.codec thread (.decode sentTag bytes)]) "decode" (.decode sentTag bytes) status out
    simp only [recorded, answered] at is ⊢
    rw [is]
    cases result with
    | error failure =>
      rw [List.append_assoc]
      exact .sent tagArrives once
    | ok buffer =>
      -- the buffer of the text is given back
      have once' : ∀ call ∈ later ++ [.release buffer], call.isHandOver = false :=
        List.forall_mem_append.2 ⟨once, List.forall_mem_singleton.2 rfl⟩
      dsimp only
      rw [List.append_assoc, List.append_assoc]
      exact .sent tagArrives once'

end NativeLibrary

/-! ## Texts of requests -/

/-- An owner that comes to others and goes leaves nothing behind. -/
theorem Ownership.retain_release {o : Ownership} (alive : 0 < o.owners) :
    o.retain.release = o := by
  have others : o.retain.owners ≠ 1 := Nat.ne_of_gt (Nat.succ_lt_succ alive)
  rw [release, if_neg others]
  rfl

theorem Judges.isHandOver {library : NativeLibrary σ} {callback : Callback} {s : σ}
    {verdict : Except Violation Outcome} {calls : List NativeCall}
    (judged : Judges library callback s verdict calls) : ∀ call ∈ calls, call.isHandOver = false := by
  cases judged with
  | missing | answers | unreadable => nofun
  | breaks => exact List.forall_mem_singleton.2 rfl
  | @fails detail =>
    refine List.forall_mem_cons.2 ⟨rfl, fun call member => ?_⟩
    obtain ⟨buffer, -, rfl⟩ := List.mem_map.1 member
    rfl

namespace Exchange

variable {libraries : BridgeId → NativeLibrary σ} {x z : Exchange (σ × List NativeCall)}

/-- The library got calls between `x` and `z`, and none of them handed a text over. -/
def HandsNothing (x z : Exchange (σ × List NativeCall)) : Prop :=
  ∃ later, z.native.2 = x.native.2 ++ later ∧ ∀ call ∈ later, call.isHandOver = false

theorem HandsNothing.of_native (native : z.native = x.native) : HandsNothing x z :=
  ⟨[], by rw [native, List.append_nil], nofun⟩

theorem HandsNothing.trans {y : Exchange (σ × List NativeCall)} (first : HandsNothing x y)
    (second : HandsNothing y z) : HandsNothing x z := by
  obtain ⟨calls, is, none⟩ := first
  obtain ⟨calls', is', none'⟩ := second
  exact ⟨calls ++ calls', by rw [is', is, List.append_assoc],
    List.forall_mem_append.2 ⟨none, none'⟩⟩

theorem complete_handsNothing {callback : Callback}
    (done : x.complete (fun bridge => (libraries bridge).recorded) callback = .ok z) :
    HandsNothing x z := by
  obtain ⟨bridge, y, outcome, native, resumed, found, classified, resumes⟩ := complete_ok done
  obtain ⟨verdict, s', calls, -, recorded, judged⟩ :=
    classify_recorded (libraries bridge) callback y.native.1 y.native.2
  cases recorded.symm.trans classified
  obtain ⟨-, rfl⟩ := lookUp_ok found
  obtain ⟨other, slotless, taken, -, rfl⟩ := resume_ok resumes
  obtain ⟨-, rfl⟩ := takeSlot_ok taken
  exact ⟨calls, by rw [release, send_native]; rfl, judged.isHandOver⟩

theorem completeAll_handsNothing {callbacks : List Callback}
    (done : completeAll (fun bridge => (libraries bridge).recorded) callbacks x = .ok z) :
    HandsNothing x z :=
  completeAll_keeps (fun _ _ _ _ before completed => before.trans (complete_handsNothing completed))
    (.of_native rfl) done

theorem collect_handsNothing {bridge : BridgeId} {token : Token} {hand : List Token}
    {progress : Progress} {call : Call}
    (done : x.collect bridge token hand = .ok (progress, call, z)) : HandsNothing x z :=
  .of_native (collect_calm done).1.native

/-- What becomes of the request of a call that is looked at for the first time. -/
inductive Executes (libraries : BridgeId → NativeLibrary σ) (bridge : BridgeId) (request : String)
    (x : Exchange σ) (log : List NativeCall) : Prop where
  /-- The call fails, and gives up the bridge that it owned. -/
  | refused {offset : Nat} (nul : FirstNul request offset)
    (fails : ∀ hand limit passed,
      (x.noted log).pollWithin (fun bridge => (libraries bridge).recorded) hand limit passed
          (.unstarted bridge request) =
        .ok (.ready (.error (CText.refusal offset)), .gone, (x.noted log).release bridge))
  /-- The request is handed over, under the token that is issued for it. -/
  | handed {sent : CText} (arrives : Arrives request sent)
    (asked : ((x.noted log).handed (fun bridge => (libraries bridge).recorded) bridge sent).native.2 =
      log ++ [.execute x.arena.nextToken sent])
    (goesOn : ∀ hand, (x.noted log).pollAmid (fun bridge => (libraries bridge).recorded) hand
        (.unstarted bridge request) =
      ((x.noted log).handOver (fun bridge => (libraries bridge).recorded) bridge sent
        >>= fun (token, y) => y.collect bridge token hand))
    (once : ∀ hand limit passed progress call z,
      (x.noted log).pollWithin (fun bridge => (libraries bridge).recorded) hand limit passed
          (.unstarted bridge request) = .ok (progress, call, z) →
        ∃ later, z.native.2 = log ++ .execute x.arena.nextToken sent :: later ∧
          ∀ call ∈ later, call.isHandOver = false)

section

variable {request : String} {bridge : BridgeId}

theorem pollAmid_refused {error : BridgeError} (is : toCText request = .error error)
    (hand : List Token) :
    x.pollAmid (fun bridge => (libraries bridge).recorded) hand (.unstarted bridge request) =
      .ok (.ready (.error error), .gone, x.release bridge) := by
  rw [pollAmid, is]

theorem pollAmid_sent {sent : CText} (is : toCText request = .ok sent) (hand : List Token) :
    x.pollAmid (fun bridge => (libraries bridge).recorded) hand (.unstarted bridge request) =
      x.handOver (fun bridge => (libraries bridge).recorded) bridge sent
        >>= fun handed => handed.2.collect bridge handed.1 hand := by
  rw [pollAmid, is]
  dsimp only
  cases x.handOver (fun bridge => (libraries bridge).recorded) bridge sent <;> rfl

end

theorem executes (libraries : BridgeId → NativeLibrary σ) (bridge : BridgeId) (request : String)
    (x : Exchange σ) (log : List NativeCall) : Executes libraries bridge request x log := by
  have crosses := toCText_crosses request
  cases is : toCText request with
  | error error =>
    rw [is] at crosses
    cases crosses with
    | refused nul =>
      refine .refused nul fun hand limit passed => ?_
      rw [pollWithin, pollAmid_refused is]
  | ok sent =>
    rw [is] at crosses
    cases crosses with
    | whole arrives =>
      refine .handed arrives rfl (pollAmid_sent is) fun hand limit passed progress call z done => ?_
      obtain ⟨seen, call', y, polled, calm⟩ := pollWithin_calmly done
      rw [pollAmid_sent is] at polled
      obtain ⟨⟨token, afterwards⟩, handedOver, collected⟩ := bind_ok_iff.1 polled
      obtain ⟨-, completed⟩ := handOver_ok handedOver
      have quiet : HandsNothing y z := .of_native calm.native
      obtain ⟨later, is, none⟩ :=
        ((completeAll_handsNothing completed).trans (collect_handsNothing collected)).trans quiet
      exact ⟨later, is.trans (List.append_assoc _ _ _), none⟩

/-- A call that owns its bridge and gives it up at once leaves nothing behind. -/
theorem newCall_release {x : Exchange σ} {bridge : BridgeId}
    (alive : 0 < (x.bridges bridge).owners) (request : String) :
    (x.newCall bridge request).2.release bridge = x := by
  have bridges : setAt (setAt x.bridges bridge (x.bridges bridge).retain) bridge
      (x.bridges bridge) = x.bridges := by
    funext b
    by_cases same : b = bridge
    · simp only [setAt_apply, same, if_true]
    · simp only [setAt_apply, if_neg same]
  simp only [newCall, retain, release, setAt_apply, if_true, Ownership.retain_release alive, bridges]

end Exchange

/-- **Texts cross whole or are refused**, and a refusal leaves nothing behind. -/
theorem texts_cross_or_are_refused (library : NativeLibrary σ) (thread : ThreadId)
    (tag text request : String) (bytes : List UInt8) (s : σ) (log : List NativeCall)
    (libraries : BridgeId → NativeLibrary σ) (bridge : BridgeId) (x : Exchange σ)
    (alive : 0 < (x.bridges bridge).owners) :
    Encodes thread tag text s log (library.recorded.encodeRaw thread tag text (s, log)) ∧
      Decodes thread tag bytes s log (library.recorded.decodeRaw thread tag bytes (s, log)) ∧
      ((x.newCall bridge request).1 = .unstarted bridge request ∧
        Exchange.Executes libraries bridge request (x.newCall bridge request).2 log ∧
        ((x.newCall bridge request).2.noted log).release bridge = x.noted log) ∧
      ∀ sent, toCText text = .ok sent →
        ∀ beyond, readCText (.ofMemory (sent.toMemory ++ beyond)) = .ok text := by
  refine ⟨library.encodeRaw_encodes thread s log tag text,
    library.decodeRaw_decodes thread s log tag bytes,
    ⟨rfl, Exchange.executes libraries bridge request _ log, ?_⟩, fun sent is beyond => ?_⟩
  · exact congrArg (Exchange.noted log) (Exchange.newCall_release alive request)
  · rw [sent.ofMemory_toMemory, (arrives_of_sent is).bridge]

/-- A nul behind a character of two bytes is refused at offset two, in a text that is encoded and in
a request. -/
theorem texts_cross_or_are_refused_nul :
    Script.library.recorded.encodeRaw 0 "T" "é\x00z" (.empty, []) =
        (.error (.error (CText.refusal 2)), .empty, []) ∧
      let x : Exchange Script := .initial .empty fun _ => .owned 1
      ((x.newCall 0 "é\x00z").2.noted []).pollWithin (fun _ => Script.library.recorded) [] none false
          (x.newCall 0 "é\x00z").1 =
        .ok (.ready (.error (CText.refusal 2)), .gone, x.noted []) := by
  have tagPlain : ¬ ∃ offset, FirstNul "T" offset := by
    rw [exists_firstNul_iff]
    decide
  have holdsNul : ∀ sent : CText, sent.bytes ≠ Utf8.encode "é\x00z" := by
    intro sent is
    exact sent.noNul (is ▸ Utf8.zero_mem_encode_iff.2 (by decide))
  have second : ∀ offset, FirstNul "é\x00z" offset → offset = 2 := by
    intro offset nul
    exact nul.offset_eq.trans (by decide)
  obtain ⟨encodes, -, ⟨-, executes, restored⟩, -⟩ := texts_cross_or_are_refused Script.library 0 "T"
    "é\x00z" "é\x00z" [] .empty [] (fun _ => Script.library) 0
    (.initial .empty fun _ => .owned 1) (by decide)
  constructor
  · generalize Script.library.recorded.encodeRaw 0 "T" "é\x00z" (.empty, []) = result at encodes ⊢
    cases encodes with
    | noTag nul => exact absurd ⟨_, nul⟩ tagPlain
    | noText arrives nul => rw [second _ nul]
    | sent tagArrives textArrives => exact absurd textArrives.bytes (holdsNul _)
  · cases executes with
    | refused nul fails =>
      rw [second _ nul, restored] at fails
      exact fails [] none false
    | handed arrives => exact absurd arrives.bytes (holdsNul _)

end EngineBridge
