import EngineBridge.Files.Path
import Mathlib.Data.List.Infix
/-!
# Path texts

The pieces of a path and slashes between them make the path again (`textOf_reversedBody`), and the
paths above it are what it begins with (`textOf_append`).  A name seen from a path is one more piece
(`pieces_join`).
-/

namespace EngineBridge.Path

variable {path base ending piece name : String} {reversed : List String}

/-! ## Absolute paths -/

theorem isAbsolute_eq (path : String) : isAbsolute path = (path.toList.head? == some '/') := by
  unfold isAbsolute
  cases path.toList with
  | nil => rfl
  | cons c rest =>
    by_cases slash : c = '/'
    · rw [slash]
      rfl
    · rw [List.head?_cons]
      simp [slash]

/-- What is put behind a path does not make it absolute. -/
theorem isAbsolute_append (relative : isAbsolute ending = false) :
    isAbsolute (path ++ ending) = isAbsolute path := by
  rw [isAbsolute_eq] at relative ⊢
  rw [isAbsolute_eq, String.toList_append]
  cases chars : path.toList with
  | nil => simpa using relative
  | cons c rest => rfl

theorem length_le_join (base file : String) : file.length ≤ (join base file).length := by
  unfold join
  split
  · exact Nat.le_refl _
  · split
    · rw [String.length_append]
      exact Nat.le_add_left _ _
    · rw [String.length_append]
      exact Nat.le_add_left _ _

/-! ## Pieces -/

theorem piecesOf_slash (rest : List Char) : piecesOf ('/' :: rest) = [] :: piecesOf rest := rfl

theorem piecesOf_ne_nil (text : List Char) : piecesOf text ≠ [] := by
  cases text with
  | nil => exact List.cons_ne_nil _ _
  | cons c rest =>
    rw [piecesOf]
    split
    · exact List.cons_ne_nil _ _
    · split <;> exact List.cons_ne_nil _ _

theorem piecesOf_letter {c : Char} (letter : c ≠ '/') (rest : List Char) :
    ∃ piece others, piecesOf rest = piece :: others ∧
      piecesOf (c :: rest) = (c :: piece) :: others := by
  obtain ⟨piece, others, is⟩ := List.exists_cons_of_ne_nil (piecesOf_ne_nil rest)
  refine ⟨piece, others, is, ?_⟩
  rw [piecesOf, if_neg letter, is]

theorem piecesOf_append_slash (before after : List Char) :
    piecesOf (before ++ '/' :: after) = piecesOf before ++ piecesOf after := by
  induction before with
  | nil => rfl
  | cons c before ih =>
    rw [List.cons_append]
    by_cases slash : c = '/'
    · rw [slash, piecesOf_slash, piecesOf_slash, ih, List.cons_append]
    · obtain ⟨piece, others, is, cons⟩ := piecesOf_letter slash before
      obtain ⟨piece', others', is', cons'⟩ := piecesOf_letter slash (before ++ '/' :: after)
      rw [ih, is, List.cons_append] at is'
      obtain ⟨rfl, rfl⟩ := List.cons.inj is'
      rw [cons, cons', List.cons_append]

theorem piecesOf_of_noSlash {text : List Char} (whole : '/' ∉ text) : piecesOf text = [text] := by
  induction text with
  | nil => rfl
  | cons c text ih =>
    rw [List.mem_cons, not_or] at whole
    obtain ⟨piece, others, is, cons⟩ := piecesOf_letter (Ne.symm whole.1) text
    rw [ih whole.2] at is
    obtain ⟨rfl, rfl⟩ := List.cons.inj is
    exact cons

theorem noSlash_of_mem_piecesOf {text piece : List Char} (among : piece ∈ piecesOf text) :
    '/' ∉ piece := by
  induction text generalizing piece with
  | nil =>
    rw [List.mem_singleton.1 among]
    exact List.not_mem_nil
  | cons c text ih =>
    by_cases slash : c = '/'
    · rw [slash, piecesOf_slash, List.mem_cons] at among
      rcases among with rfl | among
      · exact List.not_mem_nil
      · exact ih among
    · obtain ⟨first, others, is, cons⟩ := piecesOf_letter slash text
      rw [cons, List.mem_cons] at among
      rcases among with rfl | among
      · rw [List.mem_cons, not_or]
        exact ⟨Ne.symm slash, ih (is ▸ List.mem_cons_self)⟩
      · exact ih (is ▸ List.mem_cons_of_mem _ among)

theorem intercalate_piecesOf (text : List Char) : ['/'].intercalate (piecesOf text) = text := by
  induction text with
  | nil => rfl
  | cons c text ih =>
    by_cases slash : c = '/'
    · rw [slash, piecesOf_slash, List.intercalate_cons_of_ne_nil (piecesOf_ne_nil text), ih]
      rfl
    · obtain ⟨piece, others, is, cons⟩ := piecesOf_letter slash text
      rw [is] at ih
      rw [cons, List.intercalate_cons_cons_left, ih]

theorem pieces_append_slash (before after : String) :
    pieces (before ++ "/" ++ after) = pieces before ++ pieces after := by
  have chars : (before ++ "/" ++ after).toList = before.toList ++ '/' :: after.toList := by
    rw [String.toList_append, String.toList_append, List.append_assoc]
    rfl
  rw [pieces, chars, piecesOf_append_slash, List.map_append, pieces, pieces]

theorem intercalate_pieces (path : String) : "/".intercalate (pieces path) = path := by
  refine String.toList_inj.1 ?_
  rw [String.toList_intercalate, pieces, List.map_map]
  have same : String.toList ∘ String.ofList = id := funext fun text => String.toList_ofList
  rw [same, List.map_id]
  exact intercalate_piecesOf _

theorem pieces_slash (rest : String) : pieces ("/" ++ rest) = "" :: pieces rest := by
  have split := pieces_append_slash "" rest
  rw [String.empty_append] at split
  exact split

theorem pieces_of_noSlash (whole : '/' ∉ name.toList) : pieces name = [name] := by
  rw [pieces, piecesOf_of_noSlash whole, List.map_singleton, String.ofList_toList]

theorem noSlash_of_mem_pieces (among : piece ∈ pieces path) : '/' ∉ piece.toList := by
  obtain ⟨chars, charsAmong, rfl⟩ := List.mem_map.1 among
  rw [String.toList_ofList]
  exact noSlash_of_mem_piecesOf charsAmong

theorem pieces_intercalate {all : List String} (some : all ≠ [])
    (whole : ∀ piece ∈ all, '/' ∉ piece.toList) : pieces ("/".intercalate all) = all := by
  induction all with
  | nil => exact absurd rfl some
  | cons piece others ih =>
    have pieceWhole := pieces_of_noSlash (whole piece List.mem_cons_self)
    by_cases last : others = []
    · rw [last, String.intercalate_singleton, pieceWhole]
    · have othersWhole := ih last fun other among => whole other (List.mem_cons_of_mem _ among)
      rw [String.intercalate_cons_of_ne_nil last, pieces_append_slash, pieceWhole, othersWhole]
      rfl

/-! ## The body of a path -/

theorem isAbsolute_iff : isAbsolute path = true ↔ ∃ rest, path = "/" ++ rest := by
  rw [isAbsolute_eq]
  constructor
  · intro slash
    cases chars : path.toList with
    | nil =>
      rw [chars] at slash
      cases slash
    | cons c rest =>
      rw [chars] at slash
      have is : c = '/' := by simpa using slash
      refine ⟨String.ofList rest, String.toList_inj.1 ?_⟩
      rw [chars, is, String.toList_append, @String.toList_ofList rest]
      rfl
  · rintro ⟨rest, rfl⟩
    rw [String.toList_append]
    rfl

theorem isAbsolute_slash (rest : String) : isAbsolute ("/" ++ rest) = true :=
  isAbsolute_iff.2 ⟨rest, rfl⟩

/-- Before the body of an absolute path stands one empty piece. -/
theorem pieces_eq (path : String) :
    pieces path = (if isAbsolute path then [""] else []) ++ (reversedBody path).reverse := by
  rw [reversedBody, List.reverse_reverse]
  cases absolute : isAbsolute path with
  | false => rfl
  | true =>
    obtain ⟨rest, rfl⟩ := isAbsolute_iff.1 absolute
    rw [pieces_slash]
    rfl

theorem noSlash_of_mem_reversedBody (among : piece ∈ reversedBody path) : '/' ∉ piece.toList := by
  have amongPieces : piece ∈ pieces path := by
    rw [pieces_eq]
    exact List.mem_append_right _ (List.mem_reverse.2 among)
  exact noSlash_of_mem_pieces amongPieces

theorem textOf_reversedBody (path : String) :
    textOf (isAbsolute path) (reversedBody path) = path := by
  rw [textOf, reversedBody, List.reverse_reverse]
  cases absolute : isAbsolute path with
  | false => exact (String.empty_append ..).trans (intercalate_pieces path)
  | true =>
    obtain ⟨rest, rfl⟩ := isAbsolute_iff.1 absolute
    rw [pieces_slash]
    show "/" ++ "/".intercalate (pieces rest) = "/" ++ rest
    rw [intercalate_pieces]

theorem textOf_cons (absolute : Bool) (piece : String) (before : List String) :
    ∃ between, textOf absolute (piece :: before) = textOf absolute before ++ between ++ piece := by
  unfold textOf
  rw [List.reverse_cons]
  by_cases first : before = []
  · refine ⟨"", ?_⟩
    rw [first]
    simp
  · refine ⟨"/", ?_⟩
    rw [String.intercalate_append_of_ne_nil (by simpa using first) (List.cons_ne_nil _ _),
      String.intercalate_singleton]
    simp only [String.append_assoc]

/-- Without its last pieces a text is shorter. -/
theorem textOf_append (absolute : Bool) (after before : List String) :
    ∃ rest, textOf absolute (after ++ before) = textOf absolute before ++ rest := by
  induction after with
  | nil => exact ⟨"", (String.append_empty ..).symm⟩
  | cons piece after ih =>
    obtain ⟨rest, is⟩ := ih
    obtain ⟨between, cons⟩ := textOf_cons absolute piece (after ++ before)
    refine ⟨rest ++ between ++ piece, ?_⟩
    rw [List.cons_append, cons, is]
    simp only [String.append_assoc]

/-- The pieces of a text that is made of pieces; there may be more of them, which are empty. -/
theorem pieces_textOf (absolute : Bool) (whole : ∀ piece ∈ reversed, '/' ∉ piece.toList) :
    ∃ count, pieces (textOf absolute reversed) = List.replicate count "" ++ reversed.reverse := by
  by_cases none : reversed = []
  · rw [none]
    cases absolute with
    | false => exact ⟨1, rfl⟩
    | true => exact ⟨2, rfl⟩
  · have body : pieces ("/".intercalate reversed.reverse) = reversed.reverse := by
      refine pieces_intercalate (by simpa using none) fun piece among => ?_
      exact whole piece (List.mem_reverse.1 among)
    cases absolute with
    | false =>
      refine ⟨0, ?_⟩
      show pieces ("" ++ "/".intercalate reversed.reverse) = reversed.reverse
      rw [String.empty_append, body]
    | true =>
      refine ⟨1, ?_⟩
      show pieces ("/" ++ "/".intercalate reversed.reverse) = "" :: reversed.reverse
      rw [pieces_slash, body]

theorem eq_idle_of_isIdle {absolute : Bool} {before : List String}
    (idle : isIdle absolute piece before = true) : piece = "" ∨ piece = "." := by
  rw [isIdle, Bool.or_eq_true, Bool.and_eq_true] at idle
  rcases idle with none | ⟨dot, -⟩
  · exact .inl (of_decide_eq_true none)
  · exact .inr (of_decide_eq_true dot)

theorem dropIdle_suffix (absolute : Bool) (all : List String) : dropIdle absolute all <:+ all := by
  induction all with
  | nil => exact List.suffix_rfl
  | cons piece before ih =>
    rw [dropIdle]
    split
    · exact ih.trans (List.suffix_cons _ _)
    · exact List.suffix_rfl

theorem isAbsolute_append_left (some : path ≠ "") (ending : String) :
    isAbsolute (path ++ ending) = isAbsolute path := by
  rw [isAbsolute_eq, isAbsolute_eq, String.toList_append]
  cases chars : path.toList with
  | nil => exact absurd (String.toList_eq_nil_iff.1 chars) some
  | cons c rest => rfl

/-- A path begins with the text of its first pieces. -/
theorem exists_eq_textOf_append (suffix : reversed <:+ reversedBody path) :
    ∃ rest, path = textOf (isAbsolute path) reversed ++ rest := by
  obtain ⟨after, split⟩ := suffix
  obtain ⟨rest, is⟩ := textOf_append (isAbsolute path) after reversed
  refine ⟨rest, ?_⟩
  rw [← is, split, textOf_reversedBody]

theorem isAbsolute_textOf (suffix : reversed <:+ reversedBody path) :
    isAbsolute (textOf (isAbsolute path) reversed) = isAbsolute path := by
  obtain ⟨rest, is⟩ := exists_eq_textOf_append suffix
  cases absolute : isAbsolute path with
  | true => exact isAbsolute_slash _
  | false =>
    rw [absolute] at is
    by_cases none : textOf false reversed = ""
    · rw [none]
      rfl
    · rw [← isAbsolute_append_left none rest, ← is, absolute]

/-! ## A name seen from a path -/

theorem isAbsolute_of_noSlash (whole : '/' ∉ name.toList) : isAbsolute name = false := by
  by_contra absolute
  obtain ⟨rest, rfl⟩ := isAbsolute_iff.1 (by simpa using absolute)
  rw [String.toList_append] at whole
  exact whole (List.mem_append_left _ (by decide))

theorem endsWith_slash (ends : base.endsWith "/" = true) : ∃ before, base = before ++ "/" := by
  rw [String.endsWith_eq_endsWith_toSlice, String.Slice.endsWith_string_iff] at ends
  obtain ⟨before, split⟩ := ends
  rw [String.copy_toSlice] at split
  refine ⟨String.ofList before, String.toList_inj.1 ?_⟩
  rw [String.toList_append, @String.toList_ofList before, split]

/-- A name seen from a path has at most a slash before it. -/
theorem join_eq (base : String) (whole : '/' ∉ name.toList) :
    ∃ between, (between = "" ∨ between = "/") ∧ join base name = base ++ between ++ name := by
  rw [join, isAbsolute_of_noSlash whole, if_neg Bool.false_ne_true]
  split
  · refine ⟨"", .inl rfl, ?_⟩
    rw [String.append_empty]
  · exact ⟨"/", .inr rfl, rfl⟩

theorem isAbsolute_join (base : String) (whole : '/' ∉ name.toList) :
    isAbsolute (join base name) = isAbsolute base := by
  have relative := isAbsolute_of_noSlash whole
  by_cases none : base = ""
  · rw [join, relative, if_neg Bool.false_ne_true, if_pos (.inl none), none, String.empty_append,
      relative]
    rfl
  · obtain ⟨between, -, is⟩ := join_eq base whole
    rw [is, String.append_assoc, isAbsolute_append_left none]

/-- The name is one more piece, or stands in place of an empty one at the end. -/
theorem pieces_join (base : String) (whole : '/' ∉ name.toList) :
    pieces (join base name) = pieces base ++ [name] ∨
      ∃ before, pieces base = before ++ [""] ∧ pieces (join base name) = before ++ [name] := by
  have single := pieces_of_noSlash whole
  rw [join, isAbsolute_of_noSlash whole, if_neg Bool.false_ne_true]
  by_cases ends : base = "" ∨ base.endsWith "/"
  · rw [if_pos ends]
    refine .inr ?_
    rcases ends with rfl | ends
    · refine ⟨[], rfl, ?_⟩
      rw [String.empty_append, single]
      rfl
    · obtain ⟨before, rfl⟩ := endsWith_slash ends
      have last := pieces_append_slash before ""
      rw [String.append_empty] at last
      exact ⟨pieces before, last, by rw [pieces_append_slash, single]⟩
  · rw [if_neg ends]
    exact .inl (by rw [pieces_append_slash, single])

/-- A name seen from above a path is no longer than the name seen from the path. -/
theorem size_join_above {before : List String} (name : String) (whole : '/' ∉ name.toList)
    (suffix : piece :: before <:+ reversedBody path) (some : piece ≠ "") :
    (join (textOf (isAbsolute path) (dropIdle (isAbsolute path) before)) name).utf8ByteSize ≤
      (join path name).utf8ByteSize := by
  obtain ⟨rest, begins⟩ := exists_eq_textOf_append suffix
  obtain ⟨between, split⟩ := textOf_cons (isAbsolute path) piece before
  obtain ⟨idle, dropped⟩ := dropIdle_suffix (isAbsolute path) before
  obtain ⟨shorter, is⟩ := textOf_append (isAbsolute path) idle (dropIdle (isAbsolute path) before)
  rw [dropped] at is
  have pieceSize : piece.utf8ByteSize ≠ 0 := fun none =>
    some (String.utf8ByteSize_eq_zero_iff.1 none)
  have size := congrArg String.utf8ByteSize begins
  rw [split, is] at size
  simp only [String.utf8ByteSize_append] at size
  obtain ⟨slash, slashIs, above⟩ := join_eq
    (textOf (isAbsolute path) (dropIdle (isAbsolute path) before)) whole
  obtain ⟨other, -, same⟩ := join_eq path whole
  have slashSize : slash.utf8ByteSize ≤ 1 := by
    rcases slashIs with rfl | rfl <;> decide
  rw [above, same]
  simp only [String.utf8ByteSize_append]
  omega

end EngineBridge.Path
