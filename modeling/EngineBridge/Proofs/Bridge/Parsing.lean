import EngineBridge.Proofs.Bridge.Detail
import EngineBridge.Proofs.Json.Kept
/-!
# What a text says about a failure: `ErrorDetail::parse`

`parses_every_text`: a text is a record if it is an object with one kind and at most one of each
other own member, all of the right form (`IsRecord`).  Then its detail has what the members say
(`Describes`), and every further member; any other text is the message of an unknown failure.
Written out and parsed again, a detail without doubles stays as it is.
-/

namespace EngineBridge.ErrorDetail

open Json (Whole)

/-! ## What members say -/

/-- The values under a name, in order. -/
def valuesOf (name : String) (members : List (String × Json)) : List Json :=
  (members.filter fun member => member.1 = name).map Prod.snd

/-- Values of a member that is a string if it is there. -/
inductive TextOf : List Json → Option String → Prop where
  | absent : TextOf [] none
  | present (text : String) : TextOf [.string text] (some text)

/-- Values of a member that may also be null. -/
inductive NullableTextOf : List Json → Option String → Prop where
  | absent : NullableTextOf [] none
  | null : NullableTextOf [.null] none
  | present (text : String) : NullableTextOf [.string text] (some text)

/-- Whether members make a record. -/
structure IsRecord (members : List (String × Json)) : Prop where
  kind : ∃ kind, valuesOf "kind" members = [.string kind]
  message : ∃ message, TextOf (valuesOf "message" members) message
  status : ∃ status, NullableTextOf (valuesOf "status" members) status
  transactionId : ∃ id, NullableTextOf (valuesOf "transactionId" members) id

/-- What the detail of a record has of its members. -/
structure Describes (members : List (String × Json)) (detail : ErrorDetail) : Prop where
  kind : valuesOf "kind" members = [.string detail.kind]
  message : ∃ message, TextOf (valuesOf "message" members) message ∧
    detail.message = message.getD ""
  status : NullableTextOf (valuesOf "status" members) detail.status
  transactionId : NullableTextOf (valuesOf "transactionId" members) detail.transactionId
  /-- Each further name is there once, in order, with its last value. -/
  sorted : NameMap.Sorted detail.extra
  extra : ∀ name, detail.extra.find? name =
    if name ∈ ownNames then none else (valuesOf name members).getLast?

section

variable {name : String} {members : List (String × Json)}

theorem only?_eq (name : String) (members : List (String × Json)) :
    only? name members = match valuesOf name members with
      | [] => some none
      | [value] => some (some value)
      | _ => none := by
  rw [only?, valuesOf]
  generalize (members.filter fun member => member.1 = name) = found
  rcases found with _ | ⟨member, _ | ⟨other, more⟩⟩ <;> rfl

theorem text?_eq_some_iff {text : Option String} :
    text? name members = some text ↔ TextOf (valuesOf name members) text := by
  rw [text?, only?_eq]
  generalize valuesOf name members = values
  constructor
  · intro h
    rcases values with _ | ⟨value, _ | ⟨other, more⟩⟩
    · cases h
      exact .absent
    · cases value with
      | string text => cases h; exact .present text
      | _ => cases h
    · cases h
  · rintro ⟨⟩ <;> rfl

theorem nullableText?_eq_some_iff {text : Option String} :
    nullableText? name members = some text ↔ NullableTextOf (valuesOf name members) text := by
  rw [nullableText?, only?_eq]
  generalize valuesOf name members = values
  constructor
  · intro h
    rcases values with _ | ⟨value, _ | ⟨other, more⟩⟩
    · cases h
      exact .absent
    · cases value with
      | null => cases h; exact .null
      | string text => cases h; exact .present text
      | _ => cases h
    · cases h
  · rintro ⟨⟩ <;> rfl

theorem textOf_some_iff {values : List Json} {text : String} :
    TextOf values (some text) ↔ values = [.string text] := by
  constructor
  · rintro ⟨⟩
    rfl
  · rintro rfl
    exact .present text

/-! ## Further members -/

theorem lookup_eq_head? (name : String) (members : List (String × Json)) :
    members.lookup name = (valuesOf name members).head? := by
  induction members with
  | nil => rfl
  | cons member members ih =>
    obtain ⟨other, value⟩ := member
    rw [NameMap.lookup_entry, ih, valuesOf, valuesOf]
    by_cases same : other = name
    · simp [same]
    · simp [same, Ne.symm same]

/-- The values of a further name, and of no other. -/
theorem valuesOf_filter_own (name : String) (members : List (String × Json)) :
    valuesOf name (members.filter fun member => member.1 ∉ ownNames) =
      if name ∈ ownNames then [] else valuesOf name members := by
  rw [valuesOf, List.filter_filter]
  split
  · rename_i own
    rw [List.map_eq_nil_iff, List.filter_eq_nil_iff]
    rintro member - both
    simp only [Bool.and_eq_true, decide_eq_true_eq] at both
    exact both.2 (both.1 ▸ own)
  · rename_i foreign
    rw [valuesOf]
    congr 1
    refine List.filter_congr fun member _ => ?_
    by_cases same : member.1 = name
    · simp [same, foreign]
    · simp [same]

theorem find?_further (name : String) (members : List (String × Json)) :
    (NameMap.ofList (members.filter fun member => member.1 ∉ ownNames)).find? name =
      if name ∈ ownNames then none else (valuesOf name members).getLast? := by
  have reversed (members : List (String × Json)) :
      valuesOf name members.reverse = (valuesOf name members).reverse := by
    rw [valuesOf, List.filter_reverse, List.map_reverse, valuesOf]
  rw [NameMap.find?_ofList, lookup_eq_head?, reversed, List.head?_reverse, valuesOf_filter_own]
  split <;> rfl

/-! ## Members and details -/

theorem ofMembers?_eq_some_iff {detail : ErrorDetail} :
    ofMembers? members = some detail ↔
      ∃ kind message status id, text? "kind" members = some (some kind) ∧
        text? "message" members = some message ∧ nullableText? "status" members = some status ∧
        nullableText? "transactionId" members = some id ∧
        detail = ⟨kind, message.getD "", status, id,
          NameMap.ofList (members.filter fun member => member.1 ∉ ownNames)⟩ := by
  simp only [ofMembers?, bind, Option.bind_eq_some_iff, pure, Option.some.injEq]
  constructor
  · rintro ⟨kind?, isKind, kind, rfl, message, isMessage, status, isStatus, id, isId, rfl⟩
    exact ⟨kind, message, status, id, isKind, isMessage, isStatus, isId, rfl⟩
  · rintro ⟨kind, message, status, id, isKind, isMessage, isStatus, isId, rfl⟩
    exact ⟨some kind, isKind, kind, rfl, message, isMessage, status, isStatus, id, isId, rfl⟩

theorem IsRecord.describes (record : IsRecord members) :
    ∃ detail, ofMembers? members = some detail ∧ Describes members detail := by
  obtain ⟨⟨kind, isKind⟩, ⟨message, isMessage⟩, ⟨status, isStatus⟩, ⟨id, isId⟩⟩ := record
  refine ⟨_, ofMembers?_eq_some_iff.2 ⟨kind, message, status, id,
    text?_eq_some_iff.2 (textOf_some_iff.2 isKind), text?_eq_some_iff.2 isMessage,
    nullableText?_eq_some_iff.2 isStatus, nullableText?_eq_some_iff.2 isId, rfl⟩, ?_⟩
  exact ⟨isKind, ⟨message, isMessage, rfl⟩, isStatus, isId, NameMap.sorted_ofList _,
    fun name => find?_further name members⟩

theorem isRecord_of_ofMembers? {detail : ErrorDetail} (is : ofMembers? members = some detail) :
    IsRecord members := by
  obtain ⟨kind, message, status, id, isKind, isMessage, isStatus, isId, -⟩ :=
    ofMembers?_eq_some_iff.1 is
  exact ⟨⟨kind, textOf_some_iff.1 (text?_eq_some_iff.1 isKind)⟩,
    ⟨message, text?_eq_some_iff.1 isMessage⟩, ⟨status, nullableText?_eq_some_iff.1 isStatus⟩,
    ⟨id, nullableText?_eq_some_iff.1 isId⟩⟩

end

/-! ## Writing and parsing again -/

/-- What holds of the further members of every detail that is parsed. -/
structure Tidy (detail : ErrorDetail) : Prop where
  sorted : NameMap.Sorted detail.extra
  foreign : ∀ entry ∈ detail.extra, entry.1 ∉ ownNames
  kept : ∀ entry ∈ detail.extra, Json.Kept (Json.greatestDepth - 1) entry.2

theorem tidy_of_extra_eq_nil {detail : ErrorDetail} (none : detail.extra = []) : Tidy detail := by
  refine ⟨none ▸ .nil, fun entry present => ?_, fun entry present => ?_⟩
  · exact absurd (none ▸ present) List.not_mem_nil
  · exact absurd (none ▸ present) List.not_mem_nil

theorem tidy_parse (text : String) : Tidy (parse text) := by
  rw [parse, ofText?]
  cases read : Json.readMembersText text with
  | error error => exact tidy_of_extra_eq_nil rfl
  | ok members =>
    dsimp only
    cases is : ofMembers? members with
    | none => exact tidy_of_extra_eq_nil rfl
    | some detail =>
      obtain ⟨kind, message, status, id, -, -, -, -, rfl⟩ := ofMembers?_eq_some_iff.1 is
      have further : ∀ entry ∈ NameMap.ofList (members.filter fun member => member.1 ∉ ownNames),
          entry ∈ members ∧ entry.1 ∉ ownNames := by
        intro entry present
        have kept := List.mem_filter.1 (NameMap.mem_ofList _ present)
        exact ⟨kept.1, of_decide_eq_true kept.2⟩
      exact ⟨NameMap.sorted_ofList _, fun entry present => (further entry present).2,
        fun entry present => Json.kept_of_readMembersText read entry (further entry present).1⟩

section

variable {name : String} {members extra : List (String × Json)}

/-- Further members are not looked at for an own name. -/
theorem only?_append (own : name ∈ ownNames) (foreign : ∀ entry ∈ extra, entry.1 ∉ ownNames) :
    only? name (members ++ extra) = only? name members := by
  have unnamed : extra.filter (fun member => member.1 = name) = [] := by
    refine List.filter_eq_nil_iff.2 fun member present => ?_
    simp only [decide_eq_true_eq]
    exact fun same => foreign member present (same ▸ own)
  rw [only?, only?, List.filter_append, unnamed, List.append_nil]

theorem ownNames_of_record (record : ErrorRecord) :
    ∀ member ∈ record.members, member.1 ∈ ownNames := by
  obtain ⟨kind, message, status, transactionId⟩ := record
  by_cases empty : message = "" <;> cases status <;> cases transactionId <;>
    simp [ErrorRecord.members, ownNames, empty]

/-- The members of a record and further ones describe a detail with all of them. -/
theorem ofMembers?_append (record : ErrorRecord) (sorted : NameMap.Sorted extra)
    (foreign : ∀ entry ∈ extra, entry.1 ∉ ownNames) :
    ofMembers? (record.members ++ extra) = some { record.detail with extra := extra } := by
  obtain ⟨kind, message, status, id, isKind, isMessage, isStatus, isId, is⟩ :=
    ofMembers?_eq_some_iff.1 (ofMembers?_members record)
  have own : record.members.filter (fun member => member.1 ∉ ownNames) = [] := by
    refine List.filter_eq_nil_iff.2 fun member present => ?_
    simp only [decide_eq_true_eq, Classical.not_not]
    exact ownNames_of_record record member present
  have further : extra.filter (fun member => member.1 ∉ ownNames) = extra :=
    List.filter_eq_self.2 fun member present => decide_eq_true (foreign member present)
  refine ofMembers?_eq_some_iff.2 ⟨kind, message, status, id, ?_, ?_, ?_, ?_, ?_⟩
  · rwa [text?, only?_append (by decide) foreign]
  · rwa [text?, only?_append (by decide) foreign]
  · rwa [nullableText?, only?_append (by decide) foreign]
  · rwa [nullableText?, only?_append (by decide) foreign]
  · rw [List.filter_append, own, further, List.nil_append, NameMap.ofList_of_sorted _ sorted, is]

end

/-- **A detail without doubles is parsed from its own text.** -/
theorem Tidy.parse_json {detail : ErrorDetail} (tidy : Tidy detail)
    (whole : ∀ entry ∈ detail.extra, Whole entry.2) : parse detail.json = detail := by
  have kept : ∀ entry ∈ detail.record.members ++ detail.extra,
      Json.Kept (Json.greatestDepth - 1) entry.2 ∧ entry.2.reread = entry.2 := by
    intro entry present
    rcases List.mem_append.1 present with own | further
    · rw [ErrorRecord.members_eq] at own
      obtain ⟨member, -, rfl⟩ := List.mem_map.1 own
      exact ⟨.string member.2, rfl⟩
    · exact ⟨tidy.kept entry further, (whole entry further).reread⟩
  have reread := List.map_congr_left fun (entry : String × Json) present =>
    congrArg (Prod.mk entry.1) (kept entry present).2
  have read := Json.readMembersText_text fun entry present => (kept entry present).1
  rw [reread, List.map_id'] at read
  rw [parse, ofText?, json, read]
  dsimp only
  rw [ofMembers?_append detail.record tidy.sorted tidy.foreign]
  rfl

/-! ## Every text -/

/-- **Every text is parsed**, as a record with everything in it or whole as a message. -/
theorem parses_every_text (text : String) :
    (∀ object, Json.readText text = .ok (.object object) ↔
      ∃ members, Json.readMembersText text = .ok members ∧ object = NameMap.ofList members) ∧
    (∀ members, Json.readMembersText text = .ok members → IsRecord members →
      Describes members (parse text)) ∧
    ((∀ members, Json.readMembersText text = .ok members → ¬ IsRecord members) →
      parse text = plain unknownKind (Text.trim text)) ∧
    ((∀ entry ∈ (parse text).extra, Whole entry.2) → parse (parse text).json = parse text) := by
  refine ⟨fun object => ⟨fun is => ?_, ?_⟩, fun members read record => ?_, fun other => ?_,
    (tidy_parse text).parse_json⟩
  · obtain ⟨members, read⟩ := Json.readMembersText_of_readText is
    have whole := is.symm.trans (Json.readText_of_readMembersText read)
    cases whole
    exact ⟨members, read, rfl⟩
  · rintro ⟨members, read, rfl⟩
    exact Json.readText_of_readMembersText read
  · obtain ⟨detail, is, describes⟩ := record.describes
    rw [parse, ofText?, read]
    dsimp only
    rw [is]
    exact describes
  · rw [parse, ofText?]
    cases read : Json.readMembersText text with
    | error error => rfl
    | ok members =>
      dsimp only
      cases is : ofMembers? members with
      | none => rfl
      | some detail => exact absurd (isRecord_of_ofMembers? is) (other members read)

end EngineBridge.ErrorDetail
