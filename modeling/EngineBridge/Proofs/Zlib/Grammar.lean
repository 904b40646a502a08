import EngineBridge.Proofs.Zlib.Front
import EngineBridge.Proofs.Zlib.Store
/-!
# Inflating reads the grammar

`inflate_ok_iff`: what `inflate` answers is what the grammar says, up to the limit, and it leaves
what follows the stream.  Each function of the inflater is shown to read its part of the grammar,
once in each direction: what it answers is in the grammar, and what is in the grammar it answers
if the limit and the count of its loop allow that.  That the bits of the input are enough for every
count is what `Front` is for.
-/

namespace EngineBridge.Zlib

variable {literals distances code : Code} {out out' : Array UInt8} {bits bits' : Bits}
  {wanted kind limit count : Nat} {done lengths : List Nat}

/-! ## Symbols -/

theorem copyBack_ok_iff {distance length : Nat} (room : out.size ≤ limit) :
    copyBack limit distance length out = .ok out' ↔
      Copies distance length out out' ∧ out'.size ≤ limit := by
  constructor
  · intro h
    induction length generalizing out with
    | zero =>
      cases h
      exact ⟨.none, room⟩
    | succ length ih =>
      rw [copyBack] at h
      split at h
      · cases h
      · rename_i notFull
        split at h
        · rename_i b found
          split at h
          · rename_i reaches
            obtain ⟨more, fits⟩ := ih (by rw [Array.size_push]; omega) h
            exact ⟨.byte reaches found more, fits⟩
          · cases h
        · cases h
  · rintro ⟨copies, fits⟩
    induction copies with
    | none => rfl
    | byte reaches found more ih =>
      have grown := more.size
      rw [Array.size_push] at grown
      rw [copyBack, if_neg (by omega), found]
      dsimp only
      rw [if_pos reaches, ih (by rw [Array.size_push]; omega) fits]

/-- What the reader of symbols answers is in the grammar. -/
theorem symbols_of_inflate (room : out.size ≤ limit)
    (h : inflateSymbols limit literals distances count out bits = .ok (out', bits')) :
    Symbols literals distances out out' bits bits' ∧ out'.size ≤ limit := by
  induction count generalizing out bits with
  | zero => cases h
  | succ count ih =>
    rw [inflateSymbols] at h
    split at h
    · cases h
    · rename_i symbol after read
      split at h
      · rename_i b means
        split at h
        · cases h
        · obtain ⟨more, fits⟩ := ih (by rw [Array.size_push]; omega) h
          exact ⟨.literal read means more, fits⟩
      · rename_i means
        cases h
        exact ⟨.ends read means, room⟩
      · rename_i mark means
        split at h
        · cases h
        · rename_i length distance after readRest
          split at h
          · cases h
          · rename_i copied is
            obtain ⟨copies, fits⟩ := (copyBack_ok_iff room).1 is
            obtain ⟨more, fits'⟩ := ih fits h
            exact ⟨.copy read means readRest copies more, fits'⟩

/-- What is in the grammar, the reader of symbols answers. -/
theorem Symbols.inflates (h : Symbols literals distances out out' bits bits')
    (fits : out'.size ≤ limit) (enough : bits.left < count) :
    inflateSymbols limit literals distances count out bits = .ok (out', bits') := by
  obtain ⟨count, rfl⟩ : ∃ n, count = n + 1 := ⟨count - 1, by omega⟩
  induction h generalizing count with
  | ends read means =>
    rw [inflateSymbols, read]
    dsimp only
    rw [means]
  | literal read means more ih =>
    have grown := more.grows
    have takes := (decode_front _ read).takes
    have last := more.front.takes
    rw [Array.size_push] at grown
    obtain ⟨count, rfl⟩ : ∃ n, count = n + 1 := ⟨count - 1, by omega⟩
    rw [inflateSymbols, read]
    dsimp only
    rw [means]
    dsimp only
    rw [if_neg (by omega), ih fits count (by omega)]
  | copy read means readRest copies more ih =>
    have takesSymbol := (decode_front _ read).takes
    have takesRest := (readReference_front _ _ readRest).takes
    have last := more.front.takes
    have grown := more.grows
    have copied := copies.size
    have copying := (copyBack_ok_iff (by omega)).2 ⟨copies, Nat.le_trans grown fits⟩
    obtain ⟨count, rfl⟩ : ∃ n, count = n + 1 := ⟨count - 1, by omega⟩
    rw [inflateSymbols, read]
    dsimp only
    rw [means]
    dsimp only
    rw [readRest]
    dsimp only
    rw [copying]
    exact ih fits count (by omega)

/-! ## Codes -/

/-- What the reader of code lengths answers is in the grammar. -/
theorem lengths_of_read (h : readLengths code wanted count done bits = .ok (lengths, bits')) :
    Lengths code wanted done lengths bits bits' := by
  induction count generalizing done bits with
  | zero => cases h
  | succ count ih =>
    rw [readLengths] at h
    split at h
    · rename_i all
      cases h
      exact .enough all
    · split at h
      · cases h
      · have short : done.length < wanted := by omega
        obtain ⟨⟨symbol, after⟩, read, h⟩ := bind_ok_iff.1 h
        dsimp only at h
        split at h
        · rename_i isLength
          exact .one short isLength read (ih h)
        · split at h
          · rename_i isAgain
            subst isAgain
            obtain ⟨⟨times, after⟩, readTimes, h⟩ := bind_ok_iff.1 h
            cases done with
            | nil => cases h
            | cons last done => exact .again short read readTimes (ih h)
          · split at h
            · rename_i isZeros
              subst isZeros
              obtain ⟨⟨times, after⟩, readTimes, h⟩ := bind_ok_iff.1 h
              exact .zeros short read readTimes (ih h)
            · obtain ⟨⟨times, after⟩, readTimes, h⟩ := bind_ok_iff.1 h
              exact .manyZeros short (by omega) read readTimes (ih h)

/-- What is in the grammar, the reader of code lengths answers. -/
theorem Lengths.readLengths (h : Lengths code wanted done lengths bits bits')
    (enough : bits.left < count) :
    Zlib.readLengths code wanted count done bits = .ok (lengths, bits') := by
  obtain ⟨count, rfl⟩ : ∃ n, count = n + 1 := ⟨count - 1, by omega⟩
  induction h generalizing count with
  | enough all => rw [Zlib.readLengths, if_pos all]
  | one short isLength read more ih =>
    have takes := (readLengthSymbol_front _ read).takes
    obtain ⟨count, rfl⟩ : ∃ n, count = n + 1 := ⟨count - 1, by omega⟩
    rw [Zlib.readLengths, if_neg (by omega), if_neg (by omega)]
    refine bind_ok_iff.2 ⟨_, read, ?_⟩
    dsimp only
    rw [if_pos isLength]
    exact ih count (by omega)
  | again short read readTimes more ih =>
    have takes := (readLengthSymbol_front _ read).takes
    have takesTimes := (number_front 2 readTimes).takes
    obtain ⟨count, rfl⟩ : ∃ n, count = n + 1 := ⟨count - 1, by omega⟩
    rw [Zlib.readLengths, if_neg (by omega), if_neg (by omega)]
    refine bind_ok_iff.2 ⟨_, read, ?_⟩
    exact bind_ok_iff.2 ⟨_, readTimes, ih count (by omega)⟩
  | zeros short read readTimes more ih =>
    have takes := (readLengthSymbol_front _ read).takes
    have takesTimes := (number_front 3 readTimes).takes
    obtain ⟨count, rfl⟩ : ∃ n, count = n + 1 := ⟨count - 1, by omega⟩
    rw [Zlib.readLengths, if_neg (by omega), if_neg (by omega)]
    refine bind_ok_iff.2 ⟨_, read, ?_⟩
    exact bind_ok_iff.2 ⟨_, readTimes, ih count (by omega)⟩
  | manyZeros short isRun read readTimes more ih =>
    have takes := (readLengthSymbol_front _ read).takes
    have takesTimes := (number_front 7 readTimes).takes
    obtain ⟨count, rfl⟩ : ∃ n, count = n + 1 := ⟨count - 1, by omega⟩
    rw [Zlib.readLengths, if_neg (by omega), if_neg (by omega)]
    refine bind_ok_iff.2 ⟨_, read, ?_⟩
    dsimp only
    rw [if_neg (by omega), if_neg (by omega), if_neg (by omega)]
    exact bind_ok_iff.2 ⟨_, readTimes, ih count (by omega)⟩

/-- What the reader of codes answers is in the grammar. -/
theorem codes_of_read (h : readCodes count bits = .ok (literals, distances, bits')) :
    Codes literals distances bits bits' := by
  obtain ⟨⟨moreLiterals, afterLiterals⟩, readLiterals, h⟩ := bind_ok_iff.1 h
  obtain ⟨⟨moreDistances, afterDistances⟩, readDistances, h⟩ := bind_ok_iff.1 h
  obtain ⟨⟨moreLengths, afterLengths⟩, readCount, h⟩ := bind_ok_iff.1 h
  dsimp only at h
  split at h
  · cases h
  · rename_i few
    obtain ⟨fewLiterals, fewDistances⟩ : 257 + moreLiterals ≤ 286 ∧ 1 + moreDistances ≤ 30 := by
      simpa [Nat.not_lt] using few
    obtain ⟨⟨triples, afterTriples⟩, readCode, h⟩ := bind_ok_iff.1 h
    dsimp only at h
    split at h
    · cases h
    · rename_i usable
      obtain ⟨⟨lengths, after⟩, readAll, h⟩ := bind_ok_iff.1 h
      obtain ⟨_, isLiterals, h⟩ := bind_ok_iff.1 h
      obtain ⟨_, isDistances, h⟩ := bind_ok_iff.1 h
      cases h
      rw [Bool.not_eq_true', Bool.not_eq_false] at usable
      exact .read readLiterals readDistances readCount fewLiterals fewDistances readCode usable
        (lengths_of_read readAll) isLiterals isDistances

/-- What is in the grammar, the reader of codes answers. -/
theorem Codes.readCodes (h : Codes literals distances bits bits') (enough : bits.left < count) :
    Zlib.readCodes count bits = .ok (literals, distances, bits') := by
  obtain ⟨readLiterals, readDistances, readCount, fewLiterals, fewDistances, readCode, usable,
    allLengths, isLiterals, isDistances⟩ := h
  have takesLiterals := (number_front 5 readLiterals).takes
  have takesDistances := (number_front 5 readDistances).takes
  have takesCount := (number_front 4 readCount).takes
  have takesCode := (readTriples_front _ readCode).takes
  refine bind_ok_iff.2 ⟨_, readLiterals, bind_ok_iff.2 ⟨_, readDistances,
    bind_ok_iff.2 ⟨_, readCount, ?_⟩⟩⟩
  dsimp only
  rw [if_neg (by simp only [Bool.or_eq_true, decide_eq_true_eq]; omega)]
  refine bind_ok_iff.2 ⟨_, readCode, ?_⟩
  dsimp only
  rw [usable, if_neg (by decide)]
  exact bind_ok_iff.2 ⟨_, allLengths.readLengths (by omega),
    bind_ok_iff.2 ⟨_, isLiterals, bind_ok_iff.2 ⟨_, isDistances, rfl⟩⟩⟩

/-! ## Blocks -/

theorem copyStored_ok {length : Nat} {bytes rest : List UInt8}
    (h : copyStored limit length out bytes = .ok (out', rest)) :
    ∃ copied, bytes = copied ++ rest ∧ copied.length = length := by
  induction length generalizing out bytes with
  | zero =>
    cases h
    exact ⟨[], rfl, rfl⟩
  | succ length ih =>
    cases bytes with
    | nil => cases h
    | cons b bytes =>
      rw [copyStored] at h
      split at h
      · cases h
      · obtain ⟨copied, rfl, rfl⟩ := ih h
        exact ⟨b :: copied, rfl, rfl⟩

theorem inflateStored_ok_iff (room : out.size ≤ limit) :
    inflateStored limit out bits = .ok (out', bits') ↔
      Stored out out' bits bits' ∧ out'.size ≤ limit := by
  constructor
  · intro h
    obtain ⟨held, count, bytes⟩ := bits
    rw [inflateStored, Bits.aligned] at h
    split at h
    · rename_i a b c d bytes is
      obtain rfl : _ = a :: b :: c :: d :: bytes := is
      dsimp only at h
      split at h
      · rename_i inverse
        obtain ⟨⟨_, rest⟩, copying, h⟩ := bind_ok_iff.1 h
        cases h
        obtain ⟨copied, rfl, length⟩ := copyStored_ok copying
        rw [← length, copyStored_append copied rest room] at copying
        split at copying
        · rename_i fits
          cases copying
          refine ⟨.bytes length.symm (by rw [length]; exact inverse), ?_⟩
          simpa [Array.size_append] using fits
        · cases copying
      · cases h
    · cases h
  · rintro ⟨stored, fits⟩
    obtain @⟨_, _, _, _, _, _, bytes, rest, length, inverse⟩ := stored
    have short : out.size + bytes.length ≤ limit := by simpa [Array.size_append] using fits
    rw [inflateStored, Bits.aligned]
    dsimp only
    rw [length, if_pos inverse, copyStored_append _ _ room, if_pos short]
    rfl

/-- What the reader of a block answers is in the grammar. -/
theorem block_of_inflate (room : out.size ≤ limit)
    (h : inflateBlock limit count kind out bits = .ok (out', bits')) :
    Block out out' kind bits bits' ∧ out'.size ≤ limit := by
  match kind with
  | 0 =>
    obtain ⟨stored, fits⟩ := (inflateStored_ok_iff room).1 h
    exact ⟨.stored stored, fits⟩
  | 1 =>
    obtain ⟨symbols, fits⟩ := symbols_of_inflate room h
    exact ⟨.fixed symbols, fits⟩
  | 2 =>
    obtain ⟨⟨literals, distances, after⟩, read, h⟩ := bind_ok_iff.1 h
    obtain ⟨symbols, fits⟩ := symbols_of_inflate room h
    exact ⟨.dynamic (codes_of_read read) symbols, fits⟩
  | _ + 3 => cases h

/-- What is in the grammar, the reader of a block answers. -/
theorem Block.inflates (h : Block out out' kind bits bits') (fits : out'.size ≤ limit)
    (enough : bits.left < count) :
    inflateBlock limit count kind out bits = .ok (out', bits') := by
  have room := Nat.le_trans h.grows fits
  cases h with
  | stored bytes => exact (inflateStored_ok_iff room).2 ⟨bytes, fits⟩
  | fixed symbols => exact symbols.inflates fits enough
  | dynamic codes symbols =>
    have takes := codes.front.takes
    exact bind_ok_iff.2 ⟨_, codes.readCodes enough, symbols.inflates fits (by omega)⟩

/-- What the reader of blocks answers is in the grammar. -/
theorem blocks_of_inflate {blocks : Nat} (room : out.size ≤ limit)
    (h : inflateBlocks limit count blocks out bits = .ok (out', bits')) :
    Blocks out out' bits bits' ∧ out'.size ≤ limit := by
  induction blocks generalizing out bits with
  | zero => cases h
  | succ blocks ih =>
    obtain ⟨⟨flag, afterFlag⟩, isFlag, h⟩ := bind_ok_iff.1 h
    obtain ⟨⟨kind, after⟩, isKind, h⟩ := bind_ok_iff.1 h
    obtain ⟨⟨between, next⟩, is, h⟩ := bind_ok_iff.1 h
    obtain ⟨block, fits⟩ := block_of_inflate room is
    dsimp only at h
    split at h
    · rename_i isLast
      cases h
      subst isLast
      exact ⟨.last isFlag isKind block, fits⟩
    · rename_i isFurther
      obtain ⟨more, fits'⟩ := ih fits h
      exact ⟨.further isFurther isFlag isKind block more, fits'⟩

/-- What is in the grammar, the reader of blocks answers. -/
theorem Blocks.inflates {blocks : Nat} (h : Blocks out out' bits bits') (fits : out'.size ≤ limit)
    (enough : bits.left < count) (enoughBlocks : bits.left < blocks) :
    inflateBlocks limit count blocks out bits = .ok (out', bits') := by
  obtain ⟨blocks, rfl⟩ : ∃ n, blocks = n + 1 := ⟨blocks - 1, by omega⟩
  induction h generalizing blocks with
  | last isLast isKind block =>
    have takesFlag := (number_front 1 isLast).takes
    have takesKind := (number_front 2 isKind).takes
    exact bind_ok_iff.2 ⟨_, isLast, bind_ok_iff.2 ⟨_, isKind, bind_ok_iff.2
      ⟨_, block.inflates fits (by omega), rfl⟩⟩⟩
  | further isFurther isFlag isKind block more ih =>
    have takesFlag := (number_front 1 isFlag).takes
    have takesKind := (number_front 2 isKind).takes
    have takesBlock := block.front.takes
    obtain ⟨blocks, rfl⟩ : ∃ n, blocks = n + 1 := ⟨blocks - 1, by omega⟩
    refine bind_ok_iff.2 ⟨_, isFlag, bind_ok_iff.2 ⟨_, isKind, bind_ok_iff.2
      ⟨_, block.inflates (Nat.le_trans more.grows fits) (by omega), ?_⟩⟩⟩
    dsimp only
    rw [if_neg isFurther]
    exact ih fits (by omega) blocks (by omega)

/-! ## Streams -/

/-- **What is inflated**: the front of the bytes, where that is a stream that holds no more than the
limit.  What follows is left, and makes no difference. -/
theorem inflate_ok_iff {input payload rest : List UInt8} :
    inflate limit input = .ok (payload, rest) ↔
      payload.length ≤ limit ∧ ∃ stream, input = stream ++ rest ∧ Holds stream payload := by
  constructor
  · intro h
    rw [inflate.eq_def] at h
    split at h
    · rename_i method flags body
      split at h
      · rename_i header
        obtain ⟨⟨out, bits⟩, is, h⟩ := bind_ok_iff.1 h
        obtain ⟨blocks, fits⟩ := blocks_of_inflate (Nat.zero_le _) is
        dsimp only at h
        split at h
        · rename_i a b c d rest aligned
          split at h
          · rename_i checksum
            cases h
            obtain ⟨used, is, any⟩ := blocks.front.anyTail
            refine ⟨by simpa using fits, method :: flags :: (used ++ [a, b, c, d]), ?_, ?_⟩
            · have body : body = used ++ bits.bytes := is
              rw [body, show bits.bytes = a :: b :: c :: d :: rest from aligned]
              simp
            · exact .stream header (any [a, b, c, d]) checksum.symm
          · cases h
        · cases h
      · cases h
    · cases h
  · rintro ⟨fits, stream, rfl, holds⟩
    obtain @⟨method, flags, body, out, bits, header, blocks, checksum⟩ := holds
    obtain ⟨used, is, any⟩ := blocks.front.anyTail
    obtain rfl : body = used ++ bits.bytes := is
    have tail : bits.bytes = (Checksum.ofBytes out.toList).toBytes := checksum
    have further := any (bits.bytes ++ rest)
    rw [← List.append_assoc] at further
    have enough : (Bits.ofBytes (used ++ bits.bytes ++ rest)).left <
        8 * (method :: flags :: (used ++ bits.bytes ++ rest)).length + 1 := by
      simp only [Bits.left, Bits.ofBytes, List.length_cons]
      omega
    have room : out.size ≤ limit := by simpa using fits
    rw [List.cons_append, List.cons_append, inflate, if_pos header]
    refine bind_ok_iff.2 ⟨_, further.inflates room enough enough, ?_⟩
    simp only [Bits.aligned, tail, Checksum.toBytes, List.cons_append, List.nil_append, if_true]
    rfl

theorem holds_store (bytes : List UInt8) : Holds (store bytes) bytes := by
  have inflated := inflate_store bytes.length bytes []
  rw [List.append_nil, if_pos (Nat.le_refl _)] at inflated
  obtain ⟨-, stream, is, holds⟩ := inflate_ok_iff.1 inflated
  rw [List.append_nil] at is
  rwa [is]

end EngineBridge.Zlib
