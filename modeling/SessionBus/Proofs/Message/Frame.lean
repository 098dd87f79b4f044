import SessionBus.Message.Frame
import SessionBus.Proofs.Json.Rearranged
import SessionBus.Proofs.Packet

/-!
# Reading messages from frames that were written

A message from a frame is read in two steps: its version from the text, and its request from the
members that were kept.  The request comes back from its members by its tag, and the members come
back from the text when the data of the packet among them, if there is one, are portable.
-/

namespace SessionBus

open Json (Decoder Fields ReadsMembers)

/-- The arrays and objects around a value in the data of a packet that can be sent in a message. -/
def dataLevels : Nat := 125

namespace Request

def packet? : Request → Option Packet
  | .send _ packet => some packet
  | _ => none

/-- A request with the fields of a record comes back from the members of that record. -/
theorem ofMembers_record
    {name subtitle : String} {fields : Fields Request}
    (known : variants.find? (·.name == name) = some (.record name subtitle fields))
    (apart : "type" ∉ fields.names) {members : List (String × Json)} {request : Request}
    (restores : fields.Restores .buffered members request) :
    ofMembers (("type", .string name) :: members) = .ok request :=
  Json.Union.ofTree_record known apart restores "MessageType" .buffered

theorem ofMembers_members (request : Request) : ofMembers request.members = .ok request := by
  cases request with
  | connect displayName =>
      have name := optionalField_restores displayName
        (fun name _ => Json.Decoder.string_restores name) Json.string_ne_null "display_name"
        .buffered
      have fields := name.map Request.connect
      simp only [Option.map_id_fun', id] at fields
      exact ofMembers_record rfl (by decide) fields
  | claimSession request session =>
      have fields :=
        (Fields.Restores.both
          (.one (Json.Decoder.uint64_restores request) "request_id" .refused .buffered)
          (.one session.decoder_restores "session_id" .refused .buffered) (by decide)).map
            fun parts => claimSession parts.1 parts.2
      exact ofMembers_record rfl (by decide) fields
  | joinSession request session displayName =>
      have fields :=
        (Fields.Restores.both
          (.one (Json.Decoder.uint64_restores request) "request_id" .refused .buffered)
          (.both (.one session.decoder_restores "session_id" .refused .buffered)
            (.one (Json.Decoder.string_restores displayName) "display_name" .refused .buffered)
            (by decide))
          (by decide)).map
            fun parts => joinSession parts.1 parts.2.1 parts.2.2
      exact ofMembers_record rfl (by decide) fields
  | describeSession request session =>
      have fields :=
        (Fields.Restores.both
          (.one (Json.Decoder.uint64_restores request) "request_id" .refused .buffered)
          (.one session.decoder_restores "session_id" .refused .buffered) (by decide)).map
            fun parts => describeSession parts.1 parts.2
      exact ofMembers_record rfl (by decide) fields
  | send route packet =>
      have fields :=
        (Fields.Restores.both (.one route.decoder_restores "route" .refused .buffered)
          (.one packet.decoder_restores "packet" .refused .buffered) (by decide)).map
            fun parts => send parts.1 parts.2
      exact ofMembers_record rfl (by decide) fields
  | ping seq =>
      have fields :=
        (Fields.Restores.one (Json.Decoder.uint64_restores seq) "seq" .refused .buffered).map ping
      exact ofMembers_record rfl (by decide) fields
  | disconnect =>
      rfl

/-- The members of a request are portable if the data of its packet are. -/
theorem isPortable_members
    {request : Request}
    (portable : ∀ packet ∈ request.packet?, packet.data.document.IsPortable dataLevels) :
    ∀ member ∈ request.members, member.2.IsPortable (dataLevels + 1) := by
  have number (n : UInt64) : (number n).IsPortable (dataLevels + 1) :=
    Json.isPortable_nat n.toNat_lt (dataLevels + 1)
  cases request with
  | connect displayName =>
      have name := isPortable_optionalMember (Json.isPortable_string (dataLevels + 1))
        "display_name" displayName
      simpa [members] using name
  | send route packet =>
      have data := Packet.isPortable_toJson (portable packet rfl)
      have target : route.toJson.IsPortable (dataLevels + 1) := route.isPortable_toJson 124
      simp [members, data, target]
  | claimSession | joinSession | describeSession | ping | disconnect =>
      simp [members, number]

/-- No member of a request is named like the version in front of it. -/
theorem name_ne_versionName (request : Request) :
    ∀ member ∈ request.members, member.1 ≠ FrameMessage.versionName := by
  cases request with
  | connect displayName =>
      cases displayName <;> simp [members, optionalMember, FrameMessage.versionName]
  | claimSession | joinSession | describeSession | send | ping | disconnect =>
      simp [members, FrameMessage.versionName]

end Request

namespace FrameMessage

/-- A message whose packet, if it has one, has portable data. -/
def IsPortable (message : FrameMessage) : Prop :=
  ∀ packet ∈ message.request.packet?, packet.data.document.IsPortable dataLevels

/-- A message without a packet is portable. -/
theorem isPortable_of_plain {message : FrameMessage} (plain : message.request.packet? = none) :
    message.IsPortable := by
  intro packet carried
  rw [plain] at carried
  cases carried

theorem readsMembers_others
    {levels : Nat} {members : List (String × Json)}
    (others : ∀ member ∈ members, member.1 ≠ versionName)
    (portable : ∀ member ∈ members, member.2.IsPortable levels) (found : Partial) :
    ReadsMembers (readMember levels) found members (found.1, members.reverse ++ found.2) := by
  apply ReadsMembers.setAside
  intro member inside found rest ends
  have other := others member inside
  have read := (portable member inside).readJson ends
  simp [readMember, other, Json.readColon_cons, read]

/-- A reader of a message takes the version where it stands and sets all other members aside. -/
theorem readsMembers
    {levels : Nat} {members : List (String × Json)} {document : Json} {version : Version}
    (one : Json.named versionName members = [(versionName, document)])
    (reads : Version.decoder.Reads levels document version)
    (portable : ∀ member ∈ members, member.2.IsPortable levels) :
    ReadsMembers (readMember levels) (none, []) members
      (some version, (Json.besidesNamed versionName members).reverse) := by
  rcases List.filter_eq_cons_iff.mp one with ⟨before, after, rfl, none, _, noneLater⟩
  have others : ∀ member ∈ before, member.1 ≠ versionName := by
    simpa using none
  have othersLater : ∀ member ∈ after, member.1 ≠ versionName := by
    simpa using List.filter_eq_nil_iff.mp noneLater
  have aside : Json.besidesNamed versionName (before ++ (versionName, document) :: after) =
      before ++ after := by
    have kept : before.filter (·.1 != versionName) = before :=
      List.filter_eq_self.mpr (by simpa using others)
    have keptLater : after.filter (·.1 != versionName) = after :=
      List.filter_eq_self.mpr (by simpa using othersLater)
    rw [Json.besidesNamed, List.filter_append, kept, List.filter_cons_of_neg (by simp), keptLater]
  rw [List.forall_mem_append, List.forall_mem_cons] at portable
  rw [aside]
  have front := readsMembers_others others portable.1 (Option.none, [])
  have back := readsMembers_others othersLater portable.2.2 (some version, before.reverse ++ [])
  refine front.append (.cons (some version, before.reverse ++ []) ?_ ?_)
  · intro rest ends
    simp [readMember, Json.readColon_cons, reads rest ends]
  · simpa using back

/-- A message is read from an object with one version, wherever it stands. -/
theorem read_object
    {members : List (String × Json)} {document : Json} {version : Version} {request : Request}
    (one : Json.named versionName members = [(versionName, document)])
    (reads : Version.decoder.Reads (dataLevels + 1) document version)
    (made : Request.ofMembers (Json.besidesNamed versionName members) = .ok request)
    (portable : ∀ member ∈ members, member.2.IsPortable (dataLevels + 1)) (rest : List Char) :
    read Json.maxLevels ((Json.object members).written ++ rest) =
      .ok (⟨version, request⟩, rest) := by
  have levels : Json.maxLevels = dataLevels + 2 := rfl
  have between : Json.enclosed (dataLevels + 2) Json.closeObject readObject
      ('\x7b' :: (Json.writtenMembers true members ++ '\x7d' :: rest)) =
        .ok (⟨version, request⟩, rest) := by
    apply Json.enclosed_object
    have read := Json.readMembers_written (readsMembers one reads portable)
      (Json.length_lt_writtenMembers members true rest) true rest
    simp [readObject, read, made, Decoder.atRest]
  have visible := Json.skipSpace_cons (show Json.isSpace '\x7b' = false by decide)
  simp [FrameMessage.read, Decoder.openingThen, Json.written, visible, levels, between]

/-- The version of a message stands apart from the members of its request. -/
theorem named_version (message : FrameMessage) :
    Json.named versionName ((versionName, message.version.toJson) :: message.request.members) =
      [(versionName, message.version.toJson)] := by
  have none : Json.named versionName message.request.members = [] :=
    List.filter_eq_nil_iff.mpr (by simpa using message.request.name_ne_versionName)
  rw [Json.named, List.filter_cons_of_pos (by simp)]
  exact congrArg _ none

theorem besidesNamed_version (message : FrameMessage) :
    Json.besidesNamed versionName
        ((versionName, message.version.toJson) :: message.request.members) =
      message.request.members := by
  rw [Json.besidesNamed, List.filter_cons_of_neg (by simp)]
  exact List.filter_eq_self.mpr (by simpa using message.request.name_ne_versionName)

/-- A portable message is read from its written form. -/
theorem read_written
    {message : FrameMessage} (portable : message.IsPortable) (rest : List Char) :
    read Json.maxLevels (message.toJson.written ++ rest) = .ok (message, rest) := by
  apply read_object message.named_version (message.version.decoder_reads dataLevels)
  · rw [besidesNamed_version]
    exact message.request.ofMembers_members
  · rw [List.forall_mem_cons]
    exact ⟨message.version.isPortable_toJson dataLevels, Request.isPortable_members portable⟩

end FrameMessage

end SessionBus
