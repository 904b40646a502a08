import Mathlib.Algebra.Group.Nat.Defs
import EngineBridge.Domain.AccountId
import EngineBridge.Domain.ScheduleInfo
import EngineBridge.Proofs.Json.Kept
import EngineBridge.Proofs.Json.Records
import EngineBridge.Proofs.Json.Spaced
/-!
# Values of domain types

A value is written as an object of members in an order of its own, and is read from an object whose
members are in the order of their names, as an engine hands it back.  `RoundTrips` says that nothing
is lost on the way; schedules and account identifiers do.
-/

namespace EngineBridge

open Json (Kept Whole ReadsAs greatestDepth)

/-- A value is written as an object of some members, which holds no doubles and is not deep, and it
is read back from the canonical text of that object. -/
structure DomainType.RoundTrips {α : Type} (type : DomainType α) (members : List (String × Json))
    (value : α) : Prop where
  writes : type.write value = .ok (Json.object members).text
  kept : ∀ entry ∈ members, Kept (greatestDepth - 1) entry.2
  whole : ∀ entry ∈ members, Whole entry.2
  reads : type.read (Json.object (NameMap.ofList members)).text = .ok value

namespace DomainType.RoundTrips

variable {α : Type} {type : DomainType α} {members : List (String × Json)} {value : α}

/-- An engine reads the members in the order of their names. -/
theorem readText_members (trips : type.RoundTrips members value) :
    Json.readText (Json.object members).text = .ok (.object (NameMap.ofList members)) := by
  have read := Json.readMembersText_text trips.kept
  have same : (members.map fun entry => (entry.1, entry.2.reread)) = members := by
    rw [List.map_congr_left fun entry present => by rw [(trips.whole entry present).reread]]
    exact List.map_id' members
  rw [same] at read
  exact Json.readText_of_readMembersText read

/-- The object is read from its canonical text as it is. -/
theorem reread (trips : type.RoundTrips members value) :
    (Json.object (NameMap.ofList members)).reread = .object (NameMap.ofList members) :=
  Whole.reread (.object fun entry present =>
    trips.whole entry (NameMap.mem_ofList members present))

end DomainType.RoundTrips

/-! ## Members -/

theorem Json.kept_ofNat {levels n : Nat} (fits : n < 2 ^ 64) : Kept levels (.ofNat n) := by
  refine .number ⟨?_, ?_⟩
  · omega
  · omega

theorem Json.whole_ofNat (n : Nat) : Whole (.ofNat n) := .integer n

/-! ## Account identifiers -/

namespace AccountId

/-- The members in the order of their names. -/
def canonicalMembers (id : AccountId) : List (String × Json) :=
  [("num", .ofNat id.num), ("realm", .ofNat id.realm), ("shard", .ofNat id.shard)]

theorem ofList_members (id : AccountId) : NameMap.ofList id.members = id.canonicalMembers := by
  refine NameMap.ofList_eq_of_perm ?_ ?_
  · rw [NameMap.Sorted, ← List.pairwise_map]
    have names : ["num", "realm", "shard"].Pairwise (· < ·) := by decide +kernel
    exact names
  · exact .trans (.swap _ _ _) (.trans (.cons _ (.swap _ _ _)) (.swap _ _ _))

theorem wordField_reads (name : String) (put : Nat → Draft → Draft) (get : Draft → Option Nat)
    {n : Nat} (fits : n < 2 ^ 64) : ReadsAs (wordField name put get).read (.ofNat n) (put n) := by
  intro rest ends
  simp only [wordField, Json.readWordValue_ofNat "u64" fits rest ends]
  rfl

theorem fills {id : AccountId} (inRange : id.InRange) :
    recordType.Fills recordType.start id.canonicalMembers
      ⟨some id.shard, some id.realm, some id.num⟩ := by
  obtain ⟨shard, realm, num⟩ := inRange
  refine .cons rfl rfl (wordField_reads _ _ _ num) ?_
  refine .cons rfl rfl (wordField_reads _ _ _ realm) ?_
  exact .cons rfl rfl (wordField_reads _ _ _ shard) .nil

theorem finishes (id : AccountId) :
    recordType.Finishes ⟨some id.shard, some id.realm, some id.num⟩ id := by
  refine ⟨?_, rfl⟩
  simp [recordType, wordField]

/-- What holds of the parts holds of all values of members. -/
theorem forall_members {id : AccountId} {P : Json → Prop} (shard : P (.ofNat id.shard))
    (realm : P (.ofNat id.realm)) (num : P (.ofNat id.num)) : ∀ entry ∈ id.members, P entry.2 := by
  simp only [members, List.forall_mem_cons, List.not_mem_nil, false_imp_iff, implies_true,
    and_true]
  exact ⟨shard, realm, num⟩

/-- **Account identifiers come back.** -/
theorem roundTrips {id : AccountId} (inRange : id.InRange) :
    domainType.RoundTrips id.members id := by
  have reads : domainType.read = recordType.readText := by rw [domainType]
  obtain ⟨shard, realm, num⟩ := inRange
  refine ⟨by rw [domainType],
    forall_members (Json.kept_ofNat shard) (Json.kept_ofNat realm) (Json.kept_ofNat num),
    forall_members (Json.whole_ofNat _) (Json.whole_ofNat _) (Json.whole_ofNat _), ?_⟩
  rw [reads, ofList_members]
  exact Json.RecordType.readText_object (fills ⟨shard, realm, num⟩) (finishes id)

end AccountId

/-! ## Schedules -/

namespace ScheduleInfo

variable {info : ScheduleInfo}

/-- The members in the order of their names. -/
def canonicalMembers (info : ScheduleInfo) : List (String × Json) :=
  optionalMember "adminKey" .string info.adminKey
    ++ optionalMember "executed" .bool info.executed
    ++ optionalMember "expirationTime" .ofNat info.expirationTime
    ++ optionalMember "memo" .string info.memo
    ++ [("scheduleId", .string info.scheduleId),
      ("signatories", .array (info.signatories.map .string))]

theorem mem_optionalMember {α : Type} {name : String} {toJson : α → Json} {value : Option α}
    {entry : String × Json} : entry ∈ optionalMember name toJson value ↔
      ∃ present, value = some present ∧ entry = (name, toJson present) := by
  cases value <;> simp [optionalMember]

theorem names_optionalMember {α : Type} (name : String) (toJson : α → Json) (value : Option α) :
    ((optionalMember name toJson value).map (·.1)).Sublist [name] := by
  cases value <;> simp [optionalMember]

theorem canonicalMembers_perm (info : ScheduleInfo) :
    info.members.Perm info.canonicalMembers := by
  classical
  rw [List.perm_iff_count]
  intro entry
  simp only [members, canonicalMembers, List.count_append, List.count_cons, List.count_nil]
  omega

theorem canonicalMembers_sorted (info : ScheduleInfo) : NameMap.Sorted info.canonicalMembers := by
  have names : (info.canonicalMembers.map (·.1)).Sublist
      ["adminKey", "executed", "expirationTime", "memo", "scheduleId", "signatories"] := by
    simp only [canonicalMembers, List.map_append]
    exact ((((names_optionalMember _ _ _).append (names_optionalMember _ _ _)).append
      (names_optionalMember _ _ _)).append (names_optionalMember _ _ _)).append (.refl _)
  have inOrder : ["adminKey", "executed", "expirationTime", "memo", "scheduleId",
      "signatories"].Pairwise (· < ·) := by
    decide +kernel
  exact List.pairwise_map.1 (inOrder.sublist names)

theorem ofList_members (info : ScheduleInfo) :
    NameMap.ofList info.members = info.canonicalMembers :=
  NameMap.ofList_eq_of_perm info.canonicalMembers_sorted info.canonicalMembers_perm

/-- What has been read of a schedule when all of its members have. -/
def draft (info : ScheduleInfo) : Draft :=
  ⟨some info.scheduleId, info.memo.map some, info.expirationTime.map some,
    info.adminKey.map some, some info.signatories, info.executed.map some⟩

theorem finishes (info : ScheduleInfo) : recordType.Finishes info.draft info := by
  have same {α : Type} (value : Option α) : (value.map some).join = value := by
    cases value <;> rfl
  refine ⟨?_, ?_⟩
  · simp [recordType, field, draft]
  · simp [recordType, Draft.finish, draft, same]

theorem field_reads {α : Type} {name : String} {isRequired : Bool}
    {readMember : Json.Bytes → Except Json.Stop (α × Json.Bytes)} {put : α → Draft → Draft}
    {get : Draft → Option α} {json : Json} {value : α} (reads : ReadsAs readMember json value) :
    ReadsAs (field name isRequired readMember put get).read json (put value) := by
  intro rest ends
  simp only [field, reads rest ends]
  rfl

/-- An optional member enters a schedule that does not have it, if it is there. -/
theorem fills_optional {α : Type} {name : String} {toJson : α → Json}
    {readMember : Json.Bytes → Except Json.Stop (Option α × Json.Bytes)}
    {put : Option α → Draft → Draft} {get : Draft → Option (Option α)} {value : Option α}
    {record final : Draft}
    (found : (recordType.fields.find? fun field => field.name = name) =
      some (field name false readMember put get))
    (new : get record = none)
    (reads : ∀ present, value = some present →
      ReadsAs readMember (toJson present) (some present))
    (enters : value.elim record (fun present => put (some present) record) = final) :
    recordType.Fills record (optionalMember name toJson value) final := by
  cases value with
  | none => exact enters ▸ .nil
  | some present =>
    refine .cons found (by simp [field, new]) (field_reads (reads present rfl)) ?_
    exact enters ▸ .nil

theorem fills (inRange : info.InRange) :
    recordType.Fills recordType.start info.canonicalMembers info.draft := by
  obtain ⟨id, memo, time, key, signatories, executed⟩ := info
  -- what has been read of the schedule grows in the order of the names
  have byKey : recordType.Fills ⟨none, none, none, none, none, none⟩
      (optionalMember "adminKey" .string key) ⟨none, none, none, key.map some, none, none⟩ :=
    fills_optional rfl rfl (fun present _ => Json.readOptional_string present)
      (by cases key <;> rfl)
  have byExecuted : recordType.Fills ⟨none, none, none, key.map some, none, none⟩
      (optionalMember "executed" .bool executed)
      ⟨none, none, none, key.map some, none, executed.map some⟩ :=
    fills_optional rfl rfl (fun present _ => Json.readOptional_bool present)
      (by cases executed <;> rfl)
  have byTime : recordType.Fills ⟨none, none, none, key.map some, none, executed.map some⟩
      (optionalMember "expirationTime" .ofNat time)
      ⟨none, none, time.map some, key.map some, none, executed.map some⟩ :=
    fills_optional rfl rfl (fun present is => Json.readOptional_ofNat "u64" (inRange present is))
      (by cases time <;> rfl)
  have byMemo : recordType.Fills ⟨none, none, time.map some, key.map some, none, executed.map some⟩
      (optionalMember "memo" .string memo)
      ⟨none, memo.map some, time.map some, key.map some, none, executed.map some⟩ :=
    fills_optional rfl rfl (fun present _ => Json.readOptional_string present)
      (by cases memo <;> rfl)
  refine ((((byKey.append byExecuted).append byTime).append byMemo).append ?_)
  refine .cons rfl rfl (field_reads (Json.readTextValue_string id)) ?_
  exact .cons rfl rfl (field_reads (Json.readTextsValue_strings signatories)) .nil

/-- What holds of strings, booleans, lists of strings and the expiration time holds of all values of
members. -/
theorem forall_members {P : Json → Prop} (string : ∀ text, P (.string text))
    (bool : ∀ value, P (.bool value)) (strings : P (.array (info.signatories.map .string)))
    (time : ∀ n, info.expirationTime = some n → P (.ofNat n)) :
    ∀ entry ∈ info.members, P entry.2 := by
  intro entry present
  simp only [members, List.mem_append, List.mem_singleton, mem_optionalMember] at present
  rcases present with ((((rfl | ⟨memo, -, rfl⟩) | ⟨n, is, rfl⟩) | ⟨key, -, rfl⟩) | rfl) |
    ⟨executed, -, rfl⟩
  · exact string _
  · exact string _
  · exact time n is
  · exact string _
  · exact strings
  · exact bool _

theorem kept_members (inRange : info.InRange) :
    ∀ entry ∈ info.members, Kept (greatestDepth - 1) entry.2 := by
  have strings : Kept (125 + 1) (.array (info.signatories.map .string)) :=
    .array (List.forall_mem_map.2 fun text _ => .string text)
  exact forall_members .string .bool strings fun n is => Json.kept_ofNat (inRange n is)

theorem whole_members : ∀ entry ∈ info.members, Whole entry.2 := by
  have strings : Whole (.array (info.signatories.map .string)) :=
    .array (List.forall_mem_map.2 fun text _ => .string text)
  exact forall_members .string .bool strings fun n _ => Json.whole_ofNat n

/-- **Schedules come back**, whichever of their members are there. -/
theorem roundTrips (inRange : info.InRange) : domainType.RoundTrips info.members info := by
  have reads : domainType.read = recordType.readText := by rw [domainType]
  refine ⟨by rw [domainType], kept_members inRange, whole_members, ?_⟩
  rw [reads, ofList_members]
  exact Json.RecordType.readText_object (fills inRange) (finishes info)

end ScheduleInfo

end EngineBridge
