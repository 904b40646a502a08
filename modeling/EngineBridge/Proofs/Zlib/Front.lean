import Mathlib.Algebra.Group.Nat.Defs
import EngineBridge.Proofs.Basic
import EngineBridge.Zlib.Grammar
/-!
# Streams stand at the front

`Front`: a part of the grammar takes bits from the front, whatever stands behind them, and a word or
a block takes at least one.  So the bits of an input bound how many words and blocks there are, and
bytes behind a stream make no difference.
-/

namespace EngineBridge.Zlib

/-! ## What is taken from the front -/

/-- Number of bits that are left. -/
def Bits.left (bits : Bits) : Nat := bits.count + 8 * bits.bytes.length

/-- A step from one position to another takes so many bits or more, and it would be the same
whatever stood behind the bytes that it takes. -/
structure Front (least : Nat) (Step : Bits → Bits → Prop) (bits bits' : Bits) : Prop where
  takes : bits'.left + least ≤ bits.left
  anyTail : ∃ used, bits.bytes = used ++ bits'.bytes ∧
    ∀ tail, Step { bits with bytes := used ++ tail } { bits' with bytes := tail }

namespace Front

variable {least least' : Nat} {Step Step' : Bits → Bits → Prop} {bits bits' bits'' : Bits}

theorem comp (first : Front least Step bits bits') (second : Front least' Step' bits' bits'') :
    Front (least + least') (fun b b'' => ∃ b', Step b b' ∧ Step' b' b'') bits bits'' := by
  obtain ⟨takes, used, is, any⟩ := first
  obtain ⟨takes', used', is', any'⟩ := second
  refine ⟨by omega, used ++ used', by rw [is, is', List.append_assoc], fun tail => ?_⟩
  rw [List.append_assoc]
  exact ⟨_, any (used' ++ tail), any' tail⟩

theorem imp (h : Front least Step bits bits') (fewer : least' ≤ least)
    (imp : ∀ {b b'}, Step b b' → Step' b b') : Front least' Step' bits bits' := by
  obtain ⟨takes, used, is, any⟩ := h
  exact ⟨by omega, used, is, fun tail => imp (any tail)⟩

end Front

/-- A reader takes so many bits or more from the front. -/
def ReadsFront {α : Type} (least : Nat) (read : Bits → Except Fault (α × Bits)) : Prop :=
  ∀ ⦃bits value bits'⦄, read bits = .ok (value, bits') →
    Front least (fun b b' => read b = .ok (value, b')) bits bits'

section ReadsFront

variable {α β : Type} {least least' : Nat}

theorem readsFront_ok (value : α) : ReadsFront 0 fun bits => .ok (value, bits) := by
  intro bits _ _ h
  cases h
  exact ⟨Nat.le_refl _, [], rfl, fun tail => rfl⟩

theorem readsFront_error (fault : Fault) :
    ReadsFront least fun _ => (.error fault : Except Fault (α × Bits)) := nofun

theorem ReadsFront.bind {first : Bits → Except Fault (α × Bits)}
    {next : α → Bits → Except Fault (β × Bits)} (h : ReadsFront least first)
    (h' : ∀ value, ReadsFront least' (next value)) :
    ReadsFront (least + least') fun bits =>
      first bits >>= fun (value, bits) => next value bits := by
  intro bits value bits' is
  obtain ⟨⟨between, after⟩, read, further⟩ := bind_ok_iff.1 is
  refine ((h read).comp (h' between further)).imp (Nat.le_refl _) ?_
  rintro b b' ⟨b₁, read, further⟩
  exact bind_ok_iff.2 ⟨(between, b₁), read, further⟩

theorem ReadsFront.weaken {read : Bits → Except Fault (α × Bits)} (h : ReadsFront least read)
    (fewer : least' ≤ least) : ReadsFront least' read :=
  fun _ _ _ is => (h is).imp fewer id

/-! ## Numbers and words -/

theorem next_front : ReadsFront 1 Bits.next := by
  intro bits bit bits' h
  obtain ⟨held, count, bytes⟩ := bits
  cases count with
  | succ count =>
    cases h
    refine ⟨?_, [], rfl, fun tail => rfl⟩
    simp only [Bits.left]
    omega
  | zero =>
    cases bytes with
    | nil => cases h
    | cons b bytes =>
      cases h
      refine ⟨?_, [b], rfl, fun tail => rfl⟩
      simp only [Bits.left, List.length_cons]
      omega

theorem number_front (n : Nat) : ReadsFront n (Bits.number n) := by
  induction n with
  | zero => exact readsFront_ok 0
  | succ n ih =>
    have read := next_front.bind fun low => ih.bind fun high => readsFront_ok (low + 2 * high)
    exact read.weaken (by omega)

theorem decodeFrom_front (code : Code) (counts : List Nat) (value first index : Nat) :
    ReadsFront 1 (code.decodeFrom counts value first index) := by
  induction counts generalizing value first index with
  | nil => exact readsFront_error .corrupt
  | cons count longer ih =>
    have further (bit : Nat) : ReadsFront 0 fun bits =>
        if code.span ≤ (2 * value + bit) * 2 ^ longer.length then .error .corrupt
        else if 2 * value + bit < first + count then
          .ok (code.symbols.getD (index + (2 * value + bit - first)) 0, bits)
        else
          code.decodeFrom longer (2 * value + bit) (2 * (first + count)) (index + count) bits := by
      split
      · exact readsFront_error .corrupt
      · split
        · exact readsFront_ok _
        · exact (ih _ _ _).weaken (Nat.zero_le _)
    exact next_front.bind further

theorem decode_front (code : Code) : ReadsFront 1 code.decode :=
  decodeFrom_front code code.counts 0 0 0

theorem readAmount_front (table : Array (Nat × Nat)) (symbol : Nat) :
    ReadsFront 0 (readAmount table symbol) := by
  intro bits amount bits' h
  unfold readAmount at h ⊢
  split at h
  · cases h
  · rename_i least width _
    exact (((number_front width).bind fun more => readsFront_ok (least + more)) h).imp
      (Nat.zero_le _) id

theorem readReference_front (distances : Code) (symbol : Nat) :
    ReadsFront 0 (readReference distances symbol) :=
  ((readAmount_front lengthTable _).bind fun length => (decode_front distances).bind fun mark =>
    (readAmount_front distanceTable mark).bind fun distance =>
      readsFront_ok (length, distance)).weaken (Nat.zero_le _)

theorem readTriples_front (n : Nat) : ReadsFront 0 (readTriples n) := by
  induction n with
  | zero => exact readsFront_ok []
  | succ n ih =>
    exact ((number_front 3).bind fun value => ih.bind fun values =>
      readsFront_ok (value :: values)).weaken (Nat.zero_le _)

theorem readLengthSymbol_front (code : Code) : ReadsFront 1 (readLengthSymbol code) := by
  by_cases wordless : code.symbols.isEmpty = true
  · have is : readLengthSymbol code = fun bits => bits.next >>= fun read => .ok (0, read.2) :=
      funext fun bits => if_pos wordless
    rw [is]
    exact next_front.bind fun _ => readsFront_ok 0
  · have is : readLengthSymbol code = code.decode := funext fun bits => if_neg wordless
    rw [is]
    exact decode_front code

end ReadsFront

/-! ## Parts of the grammar -/

variable {literals distances code : Code} {out out' : Array UInt8} {bits bits' : Bits}
  {wanted kind : Nat} {done lengths : List Nat}

/-- Symbols take at least the bit that ends the block. -/
theorem Symbols.front (h : Symbols literals distances out out' bits bits') :
    Front 1 (Symbols literals distances out out') bits bits' := by
  induction h with
  | ends read means =>
    exact (decode_front literals read).imp (Nat.le_refl _) fun read => .ends read means
  | literal read means more ih =>
    refine ((decode_front literals read).comp ih).imp (by omega) ?_
    rintro b b' ⟨_, read, more⟩
    exact .literal read means more
  | copy read means readRest copies more ih =>
    refine ((decode_front literals read).comp ((readReference_front _ _ readRest).comp ih)).imp
      (by omega) ?_
    rintro b b' ⟨_, read, _, readRest, more⟩
    exact .copy read means readRest copies more

theorem Lengths.front (h : Lengths code wanted done lengths bits bits') :
    Front 0 (Lengths code wanted done lengths) bits bits' := by
  induction h with
  | enough all => exact ⟨Nat.le_refl _, [], rfl, fun _ => .enough all⟩
  | one short isLength read more ih =>
    refine ((readLengthSymbol_front code read).comp ih).imp (by omega) ?_
    rintro b b' ⟨_, read, more⟩
    exact .one short isLength read more
  | again short read readTimes more ih =>
    refine ((readLengthSymbol_front code read).comp ((number_front 2 readTimes).comp ih)).imp
      (by omega) ?_
    rintro b b' ⟨_, read, _, readTimes, more⟩
    exact .again short read readTimes more
  | zeros short read readTimes more ih =>
    refine ((readLengthSymbol_front code read).comp ((number_front 3 readTimes).comp ih)).imp
      (by omega) ?_
    rintro b b' ⟨_, read, _, readTimes, more⟩
    exact .zeros short read readTimes more
  | manyZeros short isRun read readTimes more ih =>
    refine ((readLengthSymbol_front code read).comp ((number_front 7 readTimes).comp ih)).imp
      (by omega) ?_
    rintro b b' ⟨_, read, _, readTimes, more⟩
    exact .manyZeros short isRun read readTimes more

theorem Codes.front (h : Codes literals distances bits bits') :
    Front 0 (Codes literals distances) bits bits' := by
  obtain ⟨readLiterals, readDistances, readCount, fewLiterals, fewDistances, readCode, usable,
    allLengths, isLiterals, isDistances⟩ := h
  refine ((number_front 5 readLiterals).comp ((number_front 5 readDistances).comp
    ((number_front 4 readCount).comp ((readTriples_front _ readCode).comp allLengths.front)))).imp
    (Nat.zero_le _) ?_
  rintro b b' ⟨_, readLiterals, _, readDistances, _, readCount, _, readCode, allLengths⟩
  exact .read readLiterals readDistances readCount fewLiterals fewDistances readCode usable
    allLengths isLiterals isDistances

theorem Stored.front (h : Stored out out' bits bits') : Front 0 (Stored out out') bits bits' := by
  obtain @⟨held, count, a, b, c, d, bytes, rest, length, inverse⟩ := h
  refine ⟨?_, a :: b :: c :: d :: bytes, rfl, fun tail => .bytes length inverse⟩
  simp only [Bits.left, Bits.ofBytes, List.length_cons, List.length_append]
  omega

theorem Block.front (h : Block out out' kind bits bits') :
    Front 0 (Block out out' kind) bits bits' := by
  cases h with
  | stored bytes => exact bytes.front.imp (Nat.le_refl _) .stored
  | fixed symbols => exact symbols.front.imp (Nat.zero_le _) .fixed
  | dynamic codes symbols =>
    refine (codes.front.comp symbols.front).imp (Nat.zero_le _) ?_
    rintro b b' ⟨_, codes, symbols⟩
    exact .dynamic codes symbols

/-- Blocks take at least the three bits in front of one. -/
theorem Blocks.front (h : Blocks out out' bits bits') :
    Front 3 (Blocks out out') bits bits' := by
  induction h with
  | last isLast isKind block =>
    refine ((number_front 1 isLast).comp ((number_front 2 isKind).comp block.front)).imp
      (by omega) ?_
    rintro b b' ⟨_, isLast, _, isKind, block⟩
    exact .last isLast isKind block
  | further isFurther isFlag isKind block more ih =>
    refine ((number_front 1 isFlag).comp ((number_front 2 isKind).comp
      (block.front.comp ih))).imp (by omega) ?_
    rintro b b' ⟨_, isFlag, _, isKind, _, block, more⟩
    exact .further isFurther isFlag isKind block more

/-! ## Output grows -/

theorem Copies.size {distance length : Nat} (h : Copies distance length out out') :
    out'.size = out.size + length := by
  induction h with
  | none => rfl
  | byte reaches found more ih =>
    rw [ih, Array.size_push]
    omega

theorem Symbols.grows (h : Symbols literals distances out out' bits bits') :
    out.size ≤ out'.size := by
  induction h with
  | ends read means => exact Nat.le_refl _
  | literal read means more ih =>
    rw [Array.size_push] at ih
    omega
  | copy read means readRest copies more ih =>
    rw [copies.size] at ih
    omega

theorem Stored.grows (h : Stored out out' bits bits') : out.size ≤ out'.size := by
  cases h
  rw [Array.size_append]
  omega

theorem Block.grows (h : Block out out' kind bits bits') : out.size ≤ out'.size := by
  cases h with
  | stored bytes => exact bytes.grows
  | fixed symbols => exact symbols.grows
  | dynamic codes symbols => exact symbols.grows

theorem Blocks.grows (h : Blocks out out' bits bits') : out.size ≤ out'.size := by
  induction h with
  | last isLast isKind block => exact block.grows
  | further isFurther isFlag isKind block more ih => exact Nat.le_trans block.grows ih

end EngineBridge.Zlib
