import Mathlib.Algebra.Group.Nat.Defs
import EngineBridge.Domain.AccountId
import EngineBridge.Proofs.Domain.Values
import EngineBridge.Proofs.Frame.RoundTrip
import EngineBridge.Proofs.Native.Codec
/-!
# Typed values in frames: `Bridge::encode` and `Bridge::decode`

`decodeValue_safe`: whatever the bytes are, decoding them gives the value of the text that they are
a frame of, says that they are corrupt, or says that the text is not of the type.  The engine's text
is always UTF-8 and always in a buffer, so the bridge finds nothing else to complain about.
Afterwards the engine is as it was, less the detail that the thread may have left there before.

`values_come_back`: a value that is encoded by an engine is decoded as itself, by any thread and at
any later time, and is not taken for a value of another type.  The frame holds the members in the
order of their names, and a tag that only its own type asks for.  An engine does not look at the
length of what it encodes, but refuses what is too long when it decodes; so the canonical text must
be short enough.
-/

namespace EngineBridge

variable {α : Type}

/-- What bytes are decoded to: by the frame's rules first, then by the type's. -/
inductive DomainType.DecodesTo (type : DomainType α) (bytes : List UInt8) :
    Except Failure α → Prop
  | value {text : String} {value : α} (decoded : Frame.decode type.tag bytes = .ok text)
      (reads : type.read text = .ok value) : DecodesTo type bytes (.ok value)
  | corrupt {reason : String} (refused : Frame.decode type.tag bytes = .error (.corrupt reason)) :
      DecodesTo type bytes (.error (.error (.nativeStatus Status.corruptBytes
        ⟨"CorruptBytes", reason, none, none, []⟩)))
  | unread {text : String} {error : Json.ReadError}
      (decoded : Frame.decode type.tag bytes = .ok text) (reads : type.read text = .error error) :
      DecodesTo type bytes (.error (.error (.deserialize type.name error.message)))

/-- **Decoding is safe on arbitrary bytes.**  No fault, no invalid text and no other status comes
of it; a thread without a last error has none afterwards, and the buffers that were out are out. -/
theorem DomainType.decodeValue_safe (compress : List UInt8 → List UInt8) (type : DomainType α)
    (nonempty : type.tag ≠ "") (noNul : '\x00' ∉ type.tag.toList) (thread : ThreadId)
    (bytes : List UInt8) (host : Host) :
    ∃ result host',
      (Host.libraryWith compress).decodeValue thread type bytes host = (result, host') ∧
        type.DecodesTo bytes result ∧ Host.Restored thread host host' ∧
        (host.side.lastError thread = none → host'.side.lastError thread = none) := by
  obtain ⟨sent, tagSent⟩ := toCText_ok noNul
  cases decoded : Frame.decode type.tag bytes with
  | ok text =>
    obtain ⟨host', read, restored, same⟩ := Host.decodeRaw_ok compress thread host tagSent decoded
    have none_stays : host.side.lastError thread = none → host'.side.lastError thread = none :=
      fun none => (congrFun same thread).trans none
    rw [NativeLibrary.decodeValue, read]
    refine ⟨_, _, rfl, ?_, restored, none_stays⟩
    cases reads : type.read text with
    | ok value => exact .value decoded reads
    | error error => exact .unread decoded reads
  | error error =>
    obtain ⟨reason, rfl⟩ := Frame.decode_error nonempty decoded
    obtain ⟨host', read, restored, taken⟩ :=
      Host.decodeRaw_error compress thread host tagSent decoded
    rw [NativeLibrary.decodeValue, read]
    exact ⟨_, _, rfl, .corrupt decoded, restored, fun _ => taken⟩

/-- The frame of a record without members, under the tag of account identifiers. -/
def AccountId.emptyRecord : List UInt8 :=
  [67, 68, 84, 1, 0, 9, 65, 99, 99, 111, 117, 110, 116, 73, 100, 120, 1, 1, 2, 0, 253, 255, 123,
    125, 1, 117, 0, 249]

/-- The text of the frame is found, but not the members. -/
theorem DomainType.decodeValue_safe_emptyRecord :
    ∃ result host',
      (Host.libraryWith Zlib.store).decodeValue 0 AccountId.domainType AccountId.emptyRecord
          (Host.start .builtIn) = (result, host') ∧
        AccountId.domainType.DecodesTo AccountId.emptyRecord result ∧
        Host.Restored 0 (Host.start .builtIn) host' ∧ host'.side.lastError 0 = none := by
  obtain ⟨result, host', is, decodes, restored, none_stays⟩ :=
    DomainType.decodeValue_safe Zlib.store AccountId.domainType (by decide) (by decide) 0
      AccountId.emptyRecord (Host.start .builtIn)
  exact ⟨result, host', is, decodes, restored, none_stays rfl⟩

end EngineBridge

/-! ## There and back -/

namespace EngineBridge

variable {compress : List UInt8 → List UInt8}

namespace DomainType

/-- The tag is one that frames can have. -/
structure Tagged {α : Type} (type : DomainType α) : Prop where
  nonempty : type.tag ≠ ""
  noNul : '\x00' ∉ type.tag.toList
  short : (Utf8.encode type.tag).length ≤ Frame.greatestTag

/-- A value is encoded, and what was made of it is decoded as it, but not as one of another type:
that is corrupt. -/
def ComesBack {α β : Type} (compress : List UInt8 → List UInt8) (type : DomainType α)
    (other : DomainType β) (value : α) : Prop :=
  ∀ thread host, ∃ buffer host',
    (Host.libraryWith compress).encodeValue thread type value host = (.ok buffer, host') ∧
      ∀ thread' later,
        ((Host.libraryWith compress).decodeValue thread' type buffer.bytes later).1 = .ok value ∧
        ((Host.libraryWith compress).decodeValue thread' other buffer.bytes later).1 =
          .error (.error (.nativeStatus Status.corruptBytes ⟨"CorruptBytes",
            "frame holds " ++ type.tag ++ ", expected " ++ other.tag, none, none, []⟩))

variable {α β : Type} {type : DomainType α} {other : DomainType β}
  {members : List (String × Json)} {value : α}

/-- **Values that are read back as they were written come back from an engine.** -/
theorem RoundTrips.comesBack (trips : type.RoundTrips members value)
    (restores : Zlib.Restores compress) (tagged : type.Tagged) (otherTagged : other.Tagged)
    (apart : other.tag ≠ type.tag)
    (fits : (Utf8.encode (Json.object (NameMap.ofList members)).text).length ≤
      Frame.greatestPayload) :
    ComesBack compress type other value := by
  intro thread host
  have canonical := trips.readText_members
  obtain ⟨sentTag, tagSent⟩ := toCText_ok tagged.noNul
  obtain ⟨sentOther, otherSent⟩ := toCText_ok otherTagged.noNul
  obtain ⟨sentText, textSent⟩ := toCText_text (.object members)
  obtain ⟨frame, encoded⟩ : ∃ frame,
      Frame.encodeWith compress type.tag (Json.object members).text = .ok frame :=
    ⟨_, Frame.encodeWith_ok_iff.2 ⟨tagged.nonempty, tagged.short, _, canonical, rfl⟩⟩
  have decoded := Frame.decode_encoded restores encoded canonical
  rw [if_pos fits, trips.reread] at decoded
  have refused := Frame.decode_otherTag otherTagged.nonempty apart encoded
  obtain ⟨address, host', made⟩ := Host.encodeRaw_ok thread host tagSent textSent encoded
  refine ⟨⟨address, frame⟩, host', ?_, fun thread' later => ⟨?_, ?_⟩⟩
  · rw [NativeLibrary.encodeValue, NativeLibrary.tryEncode, trips.writes]
    simp only [made]
  · obtain ⟨later', read, -⟩ := Host.decodeRaw_ok compress thread' later tagSent decoded
    rw [NativeLibrary.decodeValue, read]
    simp only [trips.reads]
  · obtain ⟨later', read, -⟩ := Host.decodeRaw_error compress thread' later otherSent refused
    rw [NativeLibrary.decodeValue, read]
    rfl

end DomainType

theorem ScheduleInfo.tagged : ScheduleInfo.domainType.Tagged := by
  refine ⟨?_, ?_, ?_⟩ <;> decide +kernel

theorem AccountId.tagged : AccountId.domainType.Tagged := by
  refine ⟨?_, ?_, ?_⟩ <;> decide +kernel

/-- **Schedules and account identifiers come back**, whatever their strings hold and whichever
members are there, if their canonical text is not too long; neither is taken for the other. -/
theorem values_come_back (restores : Zlib.Restores compress) :
    (∀ info : ScheduleInfo, info.InRange →
      (Utf8.encode (Json.object (NameMap.ofList info.members)).text).length ≤
          Frame.greatestPayload →
        DomainType.ComesBack compress ScheduleInfo.domainType AccountId.domainType info) ∧
      ∀ id : AccountId, id.InRange →
        (Utf8.encode (Json.object (NameMap.ofList id.members)).text).length ≤
            Frame.greatestPayload →
          DomainType.ComesBack compress AccountId.domainType ScheduleInfo.domainType id := by
  have apart : AccountId.domainType.tag ≠ ScheduleInfo.domainType.tag := by decide +kernel
  refine ⟨fun info inRange fits => ?_, fun id inRange fits => ?_⟩
  · exact (ScheduleInfo.roundTrips inRange).comesBack restores ScheduleInfo.tagged
      AccountId.tagged apart fits
  · exact (AccountId.roundTrips inRange).comesBack restores AccountId.tagged
      ScheduleInfo.tagged apart.symm fits

/-- A schedule without an administrator's key, whose memo holds a nul, a quote and a character of
four bytes. -/
def oddMemo : ScheduleInfo where
  scheduleId := ""
  memo := some "\x00\"😀"
  expirationTime := some (2 ^ 64 - 1)
  adminKey := none
  signatories := ["0.0.2", ""]
  executed := some false

/-- The memo comes back, and so does an identifier of the greatest parts. -/
theorem values_come_back_oddMemo :
    DomainType.ComesBack Zlib.store ScheduleInfo.domainType AccountId.domainType oddMemo ∧
      DomainType.ComesBack Zlib.store AccountId.domainType ScheduleInfo.domainType
        ⟨0, 2 ^ 64 - 1, 2 ^ 64 - 1⟩ := by
  obtain ⟨schedules, accounts⟩ := values_come_back Zlib.store_restores
  refine ⟨schedules oddMemo ?_ (by decide +kernel), accounts _ ⟨?_, ?_, ?_⟩ (by decide +kernel)⟩
  · intro time is
    cases is
    decide
  · decide
  · decide
  · decide

end EngineBridge
