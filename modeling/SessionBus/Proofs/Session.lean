import SessionBus.Proofs.Instant
import SessionBus.Proofs.Json.Record
import SessionBus.Session
import SessionBus.Version

/-!
# Reading sessions that were written

The identities of frames, the keys, entries and records of sessions, and versions of the protocol
are restored from the documents that stand for them.  An instant comes back as the one that its
text names, so an entry or a record comes back with the instants that were written.
-/

namespace SessionBus

open Json (Decoder Fields IsPortable)

/-- A field that may be left out is restored from its member if it has one. -/
theorem optionalField_restores
    {α β : Type} {decoder : Decoder α} {toJson : β → Json} {restored : β → α} (value : Option β)
    (restores : ∀ inner ∈ value, decoder.Restores (toJson inner) (restored inner))
    (there : ∀ inner, toJson inner ≠ .null) (name : String) (origin : Json.Origin) :
    (optionalField name decoder).Restores origin (optionalMember name toJson value)
      (value.map restored) := by
  cases value with
  | none =>
      constructor
      · simp [optionalMember]
      · exact ⟨none, rfl, fun _ => rfl⟩
  | some inner =>
      have nullable := (restores inner rfl).nullable (there inner)
      exact .one nullable name (.anywhere none) origin

/-- A member that may be left out is portable if its value is. -/
theorem isPortable_optionalMember
    {α : Type} {toJson : α → Json} {levels : Nat}
    (portable : ∀ value, (toJson value).IsPortable levels) (name : String) (value : Option α) :
    ∀ member ∈ optionalMember name toJson value, member.2.IsPortable levels := by
  cases value with
  | none =>
      simp [optionalMember]
  | some inner =>
      simpa [optionalMember] using portable inner

/-! ## Frames and keys -/

namespace FrameId

theorem decoder_restores (frame : FrameId) : decoder.Restores frame.toJson frame :=
  (Json.Decoder.uint64_restores frame.value).map FrameId.mk

@[simp]
theorem isPortable_toJson (frame : FrameId) (levels : Nat) : frame.toJson.IsPortable levels :=
  Json.isPortable_nat frame.value.toNat_lt levels

end FrameId

namespace SessionId

theorem decoder_restores (session : SessionId) : decoder.Restores session.toJson session :=
  (Json.Decoder.string_restores session.key).map SessionId.mk

@[simp]
theorem isPortable_toJson (session : SessionId) (levels : Nat) :
    session.toJson.IsPortable levels :=
  Json.isPortable_string levels session.key

end SessionId

namespace Role

theorem decoder_restores (role : Role) : decoder.Restores role.toJson role := by
  cases role with
  | owner =>
      exact Json.Decoder.choice_restores rfl
  | member =>
      exact Json.Decoder.choice_restores rfl

theorem isPortable_toJson (role : Role) (levels : Nat) : role.toJson.IsPortable levels :=
  Json.isPortable_string levels role.name

end Role

namespace Instant

/-- An instant comes back as the one that its text names. -/
theorem decoder_restores (t : Instant) : decoder.Restores t.toJson t.reread := by
  intro origin
  simp [decoder, Json.Decoder.scalar, toJson, parse_text]

theorem isPortable_toJson (t : Instant) (levels : Nat) : t.toJson.IsPortable levels :=
  Json.isPortable_string levels (String.ofList t.text)

end Instant

/-! ## Entries and records -/

namespace Member

/-- The entry with the instant that the text of its instant names. -/
def reread (member : Member) : Member :=
  { member with joinedAt := member.joinedAt.reread }

/-- An entry comes back if its instant does. -/
theorem reread_eq_self
    {member : Member} (same : member.joinedAt.reread = member.joinedAt) :
    member.reread = member := by
  simp [reread, same]

theorem decoder_restores (member : Member) : decoder.Restores member.toJson member.reread := by
  apply Json.Decoder.record_restores
  intro origin
  have name := optionalField_restores member.displayName
    (fun name _ => Json.Decoder.string_restores name) Json.string_ne_null "display_name" origin
  have fields :=
    Fields.Restores.both (.one member.frame.decoder_restores "frame_id" .refused origin)
      (.both name
        (.both (.one member.role.decoder_restores "role" .refused origin)
          (.one member.joinedAt.decoder_restores "joined_at" .refused origin) (by decide))
        (by decide))
      (by decide)
  have entry := fields.map fun parts =>
    (⟨parts.1, parts.2.1, parts.2.2.1, parts.2.2.2⟩ : Member)
  simpa [reread] using entry

@[simp]
theorem isPortable_toJson (member : Member) (levels : Nat) :
    member.toJson.IsPortable (levels + 1) := by
  apply Json.isPortable_object
  have name := isPortable_optionalMember (Json.isPortable_string levels) "display_name"
    member.displayName
  simp only [List.forall_mem_append, List.forall_mem_cons, List.not_mem_nil, false_implies,
    implies_true, and_true]
  exact ⟨⟨member.frame.isPortable_toJson levels, name⟩, member.role.isPortable_toJson levels,
    member.joinedAt.isPortable_toJson levels⟩

end Member

namespace Session

/-- The record with the instants that the texts of its instants name. -/
def reread (session : Session) : Session :=
  { session with
    createdAt := session.createdAt.reread
    members := session.members.map Member.reread }

def instants (session : Session) : List Instant :=
  session.createdAt :: session.members.map (·.joinedAt)

/-- A record comes back if its instants do. -/
theorem reread_eq_self
    {session : Session} (same : ∀ t ∈ session.instants, t.reread = t) :
    session.reread = session := by
  have created := same session.createdAt List.mem_cons_self
  have members : session.members.map Member.reread = session.members := by
    have each : ∀ member ∈ session.members, member.reread = member := by
      intro member inside
      apply Member.reread_eq_self
      exact same _ (List.mem_cons_of_mem _ (List.mem_map_of_mem inside))
    exact (List.map_congr_left each).trans (List.map_id' session.members)
  simp [reread, created, members]

theorem decoder_restores (session : Session) :
    decoder.Restores session.toJson session.reread := by
  apply Json.Decoder.record_restores
  intro origin
  have members : (Decoder.list Member.decoder).Restores
      (.array (session.members.map Member.toJson)) (session.members.map Member.reread) :=
    Json.Decoder.list_restores fun member _ => member.decoder_restores
  have fields :=
    Fields.Restores.both (.one session.id.decoder_restores "session_id" .refused origin)
      (.both (.one session.owner.decoder_restores "owner" .refused origin)
        (.both (.one session.createdAt.decoder_restores "created_at" .refused origin)
          (.one members "members" .refused origin) (by decide))
        (by decide))
      (by decide)
  exact fields.map fun parts =>
    (⟨parts.1, parts.2.1, parts.2.2.1, parts.2.2.2⟩ : Session)

theorem isPortable_toJson (session : Session) (levels : Nat) :
    session.toJson.IsPortable (levels + 3) := by
  apply Json.isPortable_object
  have members : (Json.array (session.members.map Member.toJson)).IsPortable (levels + 2) := by
    apply Json.isPortable_array
    simp
  simp only [List.forall_mem_cons, List.not_mem_nil, false_implies, implies_true, and_true]
  exact ⟨session.id.isPortable_toJson _, session.owner.isPortable_toJson _,
    session.createdAt.isPortable_toJson _, members⟩

end Session

/-! ## Versions -/

namespace Version

theorem decoder_restores (version : Version) : decoder.Restores version.toJson version := by
  apply Json.Decoder.record_restores
  intro origin
  have fields :=
    Fields.Restores.both
      (.one (Json.Decoder.uint16_restores version.major) "major" .refused origin)
      (.one (Json.Decoder.uint16_restores version.minor) "minor" .refused origin) (by decide)
  exact fields.map fun parts => (⟨parts.1, parts.2⟩ : Version)

theorem isPortable_toJson (version : Version) (levels : Nat) :
    version.toJson.IsPortable (levels + 1) := by
  have number (n : UInt16) : (Json.nat n.toNat).IsPortable levels :=
    Json.isPortable_nat (Nat.lt_trans n.toNat_lt (by decide)) levels
  apply Json.isPortable_object
  simp [number]

theorem fields_readsStored :
    (((Fields.one "major" Decoder.uint16).both (Fields.one "minor" Decoder.uint16)).map
      fun (major, minor) => (⟨major, minor⟩ : Version)).ReadsStored :=
  ((Fields.ReadsStored.one Json.Decoder.uint16_readsStored "major" .refused).both
    (.one Json.Decoder.uint16_readsStored "minor" .refused)).map _

/-- A version is read from the written form of any portable object that stands for it. -/
theorem decoder_reads_object
    {version : Version} {levels : Nat} {members : List (String × Json)}
    (portable : ∀ member ∈ members, member.2.IsPortable levels)
    (decoded : decoder.tree .stored (.object members) = .ok version) :
    decoder.Reads (levels + 1) (.object members) version :=
  Json.Decoder.record_reads fields_readsStored portable decoded "ProtocolVersion"

/-- A version is read from its written form. -/
theorem decoder_reads (version : Version) (levels : Nat) :
    decoder.Reads (levels + 1) version.toJson version := by
  have number (n : UInt16) : (Json.nat n.toNat).IsPortable levels :=
    Json.isPortable_nat (Nat.lt_trans n.toNat_lt (by decide)) levels
  exact decoder_reads_object (by simp [number]) (version.decoder_restores .stored)

end Version

end SessionBus
