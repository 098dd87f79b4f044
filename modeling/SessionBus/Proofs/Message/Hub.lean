import SessionBus.Message.Hub
import SessionBus.Proofs.Message.Frame

/-!
# Reading messages from the hub that were written

A message from the hub comes back from its written form by its tag.  The description of a session
comes back with the instants that the texts of its instants name.
-/

namespace SessionBus.HubMessage

open Json (Decoder Fields)

def packet? : HubMessage → Option Packet
  | .deliver packet => some packet
  | _ => none

/-- A message whose packet, if it has one, has portable data. -/
def IsPortable (message : HubMessage) : Prop :=
  ∀ packet ∈ message.packet?, packet.data.document.IsPortable dataLevels

/-- The message with the instants that the texts of its instants name. -/
def reread : HubMessage → HubMessage
  | .sessionDescribed request session => .sessionDescribed request (session.map Session.reread)
  | message => message

def instants : HubMessage → List Instant
  | .sessionDescribed _ (some session) => session.instants
  | _ => []

/-- A message comes back if its instants do. -/
theorem reread_eq_self
    {message : HubMessage} (same : ∀ t ∈ message.instants, t.reread = t) :
    message.reread = message := by
  cases message with
  | sessionDescribed request session =>
      cases session with
      | none =>
          rfl
      | some session =>
          simp [reread, Session.reread_eq_self same]
  | connected | rejected | sessionClaimed | sessionJoined | deliver | pong | error =>
      rfl

/-- A message without a leap second is the one that is written. -/
theorem reread_of_noLeap
    (message : HubMessage) (noLeap : ∀ t ∈ message.instants, t.nano < 1000000000) :
    message.reread = message :=
  reread_eq_self fun t inside => Instant.reread_of_nano_lt (noLeap t inside)

/-- The members of a message are portable if the data of its packet are. -/
theorem isPortable_members
    {message : HubMessage} (portable : message.IsPortable) :
    ∀ member ∈ message.members, member.2.IsPortable (dataLevels + 1) := by
  have number (n : UInt64) : (number n).IsPortable (dataLevels + 1) :=
    Json.isPortable_nat n.toNat_lt (dataLevels + 1)
  have protocol (v : Version) : v.toJson.IsPortable (dataLevels + 1) :=
    v.isPortable_toJson dataLevels
  cases message with
  | deliver packet =>
      have data := Packet.isPortable_toJson (portable packet rfl)
      simp [members, data]
  | sessionDescribed request session =>
      have record := isPortable_optionalMember
        (fun session => Session.isPortable_toJson session 123) "session" session
      simp only [members, List.forall_mem_append, List.forall_mem_cons]
      exact ⟨⟨Json.isPortable_string _ _, number request, nofun⟩, record⟩
  | error message request code =>
      have answered := isPortable_optionalMember number "request_id" request
      have coded := isPortable_optionalMember (Json.isPortable_string (dataLevels + 1)) "code" code
      simp only [members, List.forall_mem_append, List.forall_mem_cons]
      exact ⟨⟨⟨Json.isPortable_string _ _, Json.isPortable_string _ _, nofun⟩, answered⟩, coded⟩
  | connected | rejected | sessionClaimed | sessionJoined | pong =>
      simp [members, number, protocol]

/-- A message with the fields of a record is restored from the object of that record. -/
theorem decoder_restores_record
    {name subtitle : String} {fields : Fields HubMessage}
    (known : variants.find? (·.name == name) = some (.record name subtitle fields))
    (apart : "type" ∉ fields.names) {message : HubMessage} {others : List (String × Json)}
    (members : message.members = ("type", .string name) :: others) {value : HubMessage}
    (restores : fields.Restores .buffered others value) :
    decoder.Restores message.toJson value := by
  intro origin
  rw [toJson, members]
  exact Json.Union.ofTree_record known apart restores "HubMessage" origin

theorem decoder_restores (message : HubMessage) :
    decoder.Restores message.toJson message.reread := by
  cases message with
  | connected version frame =>
      have fields :=
        (Fields.Restores.both
          (.one version.decoder_restores "protocol_version" .refused .buffered)
          (.one frame.decoder_restores "frame_id" .refused .buffered) (by decide)).map
            fun parts => connected parts.1 parts.2
      exact decoder_restores_record rfl (by decide) rfl fields
  | rejected reason version =>
      have fields :=
        (Fields.Restores.both
          (.one (Json.Decoder.string_restores reason) "reason" .refused .buffered)
          (.one version.decoder_restores "protocol_version" .refused .buffered) (by decide)).map
            fun parts => rejected parts.1 parts.2
      exact decoder_restores_record rfl (by decide) rfl fields
  | sessionClaimed request claimed =>
      have fields :=
        (Fields.Restores.both
          (.one (Json.Decoder.uint64_restores request) "request_id" .refused .buffered)
          (.one (Json.Decoder.bool_restores claimed) "claimed" .refused .buffered)
          (by decide)).map
            fun parts => sessionClaimed parts.1 parts.2
      exact decoder_restores_record rfl (by decide) rfl fields
  | sessionJoined request joined =>
      have fields :=
        (Fields.Restores.both
          (.one (Json.Decoder.uint64_restores request) "request_id" .refused .buffered)
          (.one (Json.Decoder.bool_restores joined) "joined" .refused .buffered)
          (by decide)).map
            fun parts => sessionJoined parts.1 parts.2
      exact decoder_restores_record rfl (by decide) rfl fields
  | sessionDescribed request session =>
      have record := optionalField_restores session
        (fun session _ => session.decoder_restores) (fun _ => Json.object_ne_null _) "session"
        .buffered
      have fields :=
        (Fields.Restores.both
          (.one (Json.Decoder.uint64_restores request) "request_id" .refused .buffered)
          record (by decide)).map
            fun parts => sessionDescribed parts.1 parts.2
      exact decoder_restores_record rfl (by decide) rfl fields
  | deliver packet =>
      have fields :=
        (Fields.Restores.one packet.decoder_restores "packet" .refused .buffered).map deliver
      exact decoder_restores_record rfl (by decide) rfl fields
  | pong seq =>
      have fields :=
        (Fields.Restores.one (Json.Decoder.uint64_restores seq) "seq" .refused .buffered).map pong
      exact decoder_restores_record rfl (by decide) rfl fields
  | error message request code =>
      have answered := optionalField_restores request
        (fun request _ => Json.Decoder.uint64_restores request)
        (fun request => Json.nat_ne_null request.toNat) "request_id" .buffered
      have coded := optionalField_restores code
        (fun code _ => Json.Decoder.string_restores code) Json.string_ne_null "code" .buffered
      have fields :=
        (Fields.Restores.both
          (.one (Json.Decoder.string_restores message) "message" .refused .buffered)
          (.both answered coded (by decide)) (by decide)).map
            fun parts => error parts.1 parts.2.1 parts.2.2
      simp only [Option.map_id_fun', id] at fields
      exact decoder_restores_record rfl (by decide) rfl fields

/-- A portable message is read from its written form. -/
theorem decoder_reads
    {message : HubMessage} (portable : message.IsPortable) :
    decoder.Reads Json.maxLevels message.toJson message.reread :=
  Json.Decoder.union_reads (isPortable_members portable) (message.decoder_restores .stored)

end SessionBus.HubMessage
