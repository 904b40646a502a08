import EngineBridge.Zlib.Stream
/-!
# Streams that are given back

`Restores` is what is asked of a compressor: inflating one of its streams gives the bytes back,
or refuses them when there are more than allowed.  `store_restores`: stored blocks do that.
Each block is read back as a whole, by induction over the blocks that the bytes are cut into.
-/

namespace EngineBridge.Zlib

/-- A compressor whose streams are given back: the very bytes, unless there are more than
allowed. -/
def Restores (compress : List UInt8 → List UInt8) : Prop :=
  ∀ limit bytes, inflate limit (compress bytes)
    = if bytes.length ≤ limit then .ok (bytes, []) else .error .tooLong

/-! ## One block -/

/-- Stored bytes are copied as far as the limit allows. -/
theorem copyStored_append {limit : Nat} (bytes rest : List UInt8) {out : Array UInt8}
    (room : out.size ≤ limit) :
    copyStored limit bytes.length out (bytes ++ rest)
      = if out.size + bytes.length ≤ limit then .ok (out ++ bytes.toArray, rest)
        else .error .tooLong := by
  induction bytes generalizing out with
  | nil => simp [copyStored, room]
  | cons b bytes ih =>
    rw [List.length_cons, List.cons_append, copyStored]
    by_cases full : limit ≤ out.size
    · rw [if_pos full, if_neg (by omega)]
    · have pushed : (out.push b).size = out.size + 1 := Array.size_push b
      have same : out.push b ++ bytes.toArray = out ++ (b :: bytes).toArray := by
        apply Array.toList_inj.1
        simp
      have whole : out.size + 1 + bytes.length = out.size + (bytes.length + 1) := by omega
      rw [if_neg full, ih (by omega), same, pushed, whole]

theorem toNat_byte_pair {n : Nat} (h : n ≤ greatestStored) :
    (UInt8.ofNat (n % 256)).toNat + 256 * (UInt8.ofNat (n / 256)).toNat = n := by
  simp only [greatestStored] at h
  rw [UInt8.toNat_ofNat', UInt8.toNat_ofNat']
  omega

/-- The three bits in front of a stored block: whether it is the last one, and its kind. -/
theorem number_storedHead (last : Bool) (bytes : List UInt8) :
    (Bits.ofBytes ((if last then 1 else 0) :: bytes)).number 1
        = .ok (if last then 1 else 0, ⟨0, 7, bytes⟩) ∧
      (⟨0, 7, bytes⟩ : Bits).number 2 = .ok (0, ⟨0, 5, bytes⟩) := by
  cases last <;> exact ⟨rfl, rfl⟩

theorem inflateBlocks_storedBlock (limit count blocks : Nat) (last : Bool) {bytes : List UInt8}
    (short : bytes.length ≤ greatestStored) (rest : List UInt8) (out : Array UInt8) :
    inflateBlocks limit count (blocks + 1) out (.ofBytes (storedBlock last bytes ++ rest))
      = match copyStored limit bytes.length out (bytes ++ rest) with
        | .error fault => .error fault
        | .ok (out, rest) =>
          if last then .ok (out, .ofBytes rest)
          else inflateBlocks limit count blocks out (.ofBytes rest) := by
  have length := toNat_byte_pair short
  have inverse := toNat_byte_pair (Nat.sub_le greatestStored bytes.length)
  have both : bytes.length + (greatestStored - bytes.length) = 65535 := by
    simp only [greatestStored] at short ⊢
    omega
  obtain ⟨first, kind⟩ := number_storedHead last
    (UInt8.ofNat (bytes.length % 256) :: UInt8.ofNat (bytes.length / 256) ::
      UInt8.ofNat ((greatestStored - bytes.length) % 256) ::
      UInt8.ofNat ((greatestStored - bytes.length) / 256) :: (bytes ++ rest))
  simp only [inflateBlocks, storedBlock, List.cons_append, first, kind, bind, Except.bind,
    inflateBlock, inflateStored, Bits.aligned, length, inverse, both, if_true]
  cases copyStored limit bytes.length out (bytes ++ rest) with
  | error fault => rfl
  | ok copied => cases last <;> rfl

/-! ## All blocks -/

/-- All blocks are read back, as far as the limit allows. -/
theorem inflateBlocks_storedBlocks (limit count : Nat) (bytes rest : List UInt8) :
    ∀ (blocks : Nat) (out : Array UInt8), bytes.length < blocks → out.size ≤ limit →
      inflateBlocks limit count blocks out (.ofBytes (storedBlocks bytes ++ rest))
        = if out.size + bytes.length ≤ limit then .ok (out ++ bytes.toArray, .ofBytes rest)
          else .error .tooLong := by
  induction bytes using storedBlocks.induct with
  | case1 bytes behind done =>
    intro blocks out enough room
    obtain ⟨blocks, rfl⟩ : ∃ n, blocks = n + 1 := ⟨blocks - 1, by omega⟩
    have short : bytes.length ≤ greatestStored := List.drop_eq_nil_iff.1 done
    rw [storedBlocks, dif_pos done, inflateBlocks_storedBlock _ _ _ _ short,
      copyStored_append _ _ room]
    by_cases fits : out.size + bytes.length ≤ limit
    · rw [if_pos fits, if_pos fits]
      rfl
    · rw [if_neg fits, if_neg fits]
  | case2 bytes behind more ih =>
    intro blocks out enough room
    obtain ⟨blocks, rfl⟩ : ∃ n, blocks = n + 1 := ⟨blocks - 1, by omega⟩
    have long : greatestStored < bytes.length :=
      Nat.lt_of_not_le fun short => more (List.drop_eq_nil_iff.2 short)
    have taken : (bytes.take greatestStored).length = greatestStored := by
      rw [List.length_take]
      omega
    have left : behind.length = bytes.length - greatestStored := List.length_drop
    have positive : 0 < greatestStored := by decide
    rw [storedBlocks, dif_neg more, List.append_assoc,
      inflateBlocks_storedBlock _ _ _ _ (Nat.le_of_eq taken), copyStored_append _ _ room]
    -- the limit is passed in this block, or what is left decides
    by_cases fits : out.size + (bytes.take greatestStored).length ≤ limit
    · have grown : (out ++ (bytes.take greatestStored).toArray).size = out.size + greatestStored := by
        simp [Array.size_append, taken]
      have joined : out ++ (bytes.take greatestStored).toArray ++ behind.toArray
          = out ++ bytes.toArray := by
        apply Array.toList_inj.1
        simp [behind]
      rw [if_pos fits]
      simp only [Bool.false_eq_true, if_false]
      have whole : out.size + greatestStored + (bytes.length - greatestStored)
          = out.size + bytes.length := by omega
      rw [ih blocks _ (by omega) (by omega), joined, grown, left, whole]
    · rw [if_neg fits, if_neg (by omega)]

theorem length_le_storedBlocks (bytes : List UInt8) :
    bytes.length ≤ (storedBlocks bytes).length := by
  induction bytes using storedBlocks.induct with
  | case1 bytes behind done =>
    rw [storedBlocks, dif_pos done, storedBlock]
    simp only [List.length_cons]
    omega
  | case2 bytes behind more ih =>
    rw [storedBlocks, dif_neg more, storedBlock]
    simp only [List.length_append, List.length_cons]
    have := congrArg List.length (List.take_append_drop greatestStored bytes)
    rw [List.length_append] at this
    simp only [behind] at ih
    omega

/-! ## Streams -/

/-- **A stored stream is given back**, and what follows it is left. -/
theorem inflate_store (limit : Nat) (bytes rest : List UInt8) :
    inflate limit (store bytes ++ rest)
      = if bytes.length ≤ limit then .ok (bytes, rest) else .error .tooLong := by
  have header : isHeader 0x78 0x01 = true := by decide
  have enough := length_le_storedBlocks bytes
  have read := inflateBlocks_storedBlocks limit
    (8 * (0x78 :: 0x01 :: (storedBlocks bytes ++ ((Checksum.ofBytes bytes).toBytes ++ rest))).length
      + 1) bytes ((Checksum.ofBytes bytes).toBytes ++ rest)
    (8 * (0x78 :: 0x01 :: (storedBlocks bytes ++ ((Checksum.ofBytes bytes).toBytes ++ rest))).length
      + 1) #[] (by simp only [List.length_cons, List.length_append]; omega) (Nat.zero_le _)
  rw [Array.size_empty, Nat.zero_add, Array.empty_append] at read
  simp only [store, List.cons_append, List.append_assoc, inflate, header, if_true, read, bind,
    Except.bind]
  by_cases fits : bytes.length ≤ limit
  · rw [if_pos fits, if_pos fits]
    simp only [Bits.ofBytes, Bits.aligned, Checksum.toBytes, List.cons_append, List.nil_append,
      if_true]
    rfl
  · rw [if_neg fits, if_neg fits]

theorem store_restores : Restores store := by
  intro limit bytes
  have given := inflate_store limit bytes []
  rwa [List.append_nil] at given

end EngineBridge.Zlib
