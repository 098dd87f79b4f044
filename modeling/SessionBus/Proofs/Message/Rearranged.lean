import SessionBus.Proofs.Json.Rearranged
import SessionBus.Proofs.Message.Line

/-!
# Messages in another order and with more members

A message comes back from every text that differs from its own in two ways: the members of its
objects stand in another order, and there are members among them whose names the objects do not
know.  The payload of a packet is left alone, and the whole stays within the levels and the size of
a line.

The names that an object knows depend on its tag.  So a message of one kind may carry the names of
the others, and its tag may come last.
-/

namespace SessionBus

open Json (Decoder Fields Leeway Rearranged Variant)

/-! ## Versions, packets and routes -/

namespace Version

/-- The fields of a version in any order and among strangers. -/
def leeway : Leeway :=
  .object [("major", Eq), ("minor", Eq)]

theorem decoder_tolerates : decoder.Tolerates leeway :=
  .record ((Fields.Tolerates.plain (by simp) _ _).both (.plain (by simp) _ _) (by decide) |>.map _)
    _

end Version

namespace Packet

/-- The fields of a packet in any order and among strangers, its data as they are. -/
def leeway : Leeway :=
  .object [("topic", Eq), ("data", Eq), ("sender_frame_id", Eq), ("session_id", Eq),
    ("destination_frame_id", Eq)]

theorem decoder_tolerates : decoder.Tolerates leeway :=
  .record ((Fields.Tolerates.plain (by simp) _ _).both
    ((Fields.Tolerates.plain (by simp) _ _).both
      ((Fields.Tolerates.plain (by simp) _ _).both
        ((Fields.Tolerates.plain (by simp) _ _).both (.plain (by simp) _ _) (by decide))
        (by decide))
      (by decide))
    (by decide) |>.map _) _

end Packet

namespace Route

/-- The parts of a route beside its tag. -/
def parts : Route → List (String × Leeway)
  | .broadcast => []
  | .frames _ => [("frames", Eq)]

/-- What may stand in the place of the document of a route: the same with its tag and its parts in any
order and among strangers. -/
def leeway (route : Route) : Leeway := fun document other =>
  document = route.toJson ∧ Leeway.object (("kind", Eq) :: route.parts) document other

theorem decoder_tolerates (route : Route) : decoder.Tolerates route.leeway := by
  rintro origin document other value ⟨rfl, members, others, same, rfl, rearranged⟩ decoded
  have made := route.decoder_restores origin
  obtain rfl : value = route := by
    rw [made] at decoded
    cases decoded
    rfl
  cases value with
  | broadcast =>
      cases same
      exact Json.Union.ofTree_rearranged rearranged rfl (.bare _ _ _) "Route" made
  | frames set =>
      cases same
      exact Json.Union.ofTree_rearranged rearranged rfl
        (.record ((Fields.Tolerates.plain (by simp [parts]) _ _).map _) _ _) "Route" made

end Route

/-! ## Sessions -/

namespace Member

/-- The fields of an entry in any order and among strangers. -/
def leeway : Leeway :=
  .object [("frame_id", Eq), ("display_name", Eq), ("role", Eq), ("joined_at", Eq)]

theorem decoder_tolerates : decoder.Tolerates leeway :=
  .record ((Fields.Tolerates.plain (by simp) _ _).both
    ((Fields.Tolerates.plain (by simp) _ _).both
      ((Fields.Tolerates.plain (by simp) _ _).both (.plain (by simp) _ _) (by decide))
      (by decide))
    (by decide) |>.map _) _

end Member

namespace Session

/-- The fields of a record, and those of its entries. -/
def leeway : Leeway :=
  .object [("session_id", Eq), ("owner", Eq), ("created_at", Eq), ("members", .list Member.leeway)]

theorem decoder_tolerates : decoder.Tolerates leeway :=
  .record ((Fields.Tolerates.plain (by simp) _ _).both
    ((Fields.Tolerates.plain (by simp) _ _).both
      ((Fields.Tolerates.plain (by simp) _ _).both
        (.one (by simp) Member.decoder_tolerates.list _) (by decide))
      (by decide))
    (by decide) |>.map _) _

end Session

/-! ## Messages from frames -/

namespace Request

/-- The parts of a request beside its tag. -/
def parts : Request → List (String × Leeway)
  | .connect _ => [("display_name", Eq)]
  | .claimSession _ _ | .describeSession _ _ => [("request_id", Eq), ("session_id", Eq)]
  | .joinSession _ _ _ => [("request_id", Eq), ("session_id", Eq), ("display_name", Eq)]
  | .send route _ => [("route", route.leeway), ("packet", Packet.leeway)]
  | .ping _ => [("seq", Eq)]
  | .disconnect => []

/-- A request comes back from its members in any order and among strangers. -/
theorem ofMembers_rearranged
    {request : Request} {others : List (String × Json)}
    (rearranged : Rearranged (("type", Eq) :: request.parts) request.members others) :
    ofMembers others = .ok request := by
  have made := request.ofMembers_members
  cases request with
  | connect displayName =>
      exact Json.Union.ofTree_rearranged rearranged rfl
        (.record ((Fields.Tolerates.plain (by simp [parts]) _ _).map _) _ _) "MessageType" made
  | claimSession request session | describeSession request session =>
      exact Json.Union.ofTree_rearranged rearranged rfl
        (.record ((Fields.Tolerates.plain (by simp [parts]) _ _).both
          (.plain (by simp [parts]) _ _) (by decide) |>.map _) _ _) "MessageType" made
  | joinSession request session displayName =>
      exact Json.Union.ofTree_rearranged rearranged rfl
        (.record ((Fields.Tolerates.plain (by simp [parts]) _ _).both
          ((Fields.Tolerates.plain (by simp [parts]) _ _).both (.plain (by simp [parts]) _ _)
            (by decide)) (by decide) |>.map _) _ _) "MessageType" made
  | send route packet =>
      exact Json.Union.ofTree_rearranged rearranged rfl
        (.record ((Fields.Tolerates.one (by simp [parts]) route.decoder_tolerates _).both
          (.one (by simp [parts]) Packet.decoder_tolerates _) (by decide) |>.map _) _ _)
        "MessageType" made
  | ping seq =>
      exact Json.Union.ofTree_rearranged rearranged rfl
        (.record ((Fields.Tolerates.plain (by simp [parts]) _ _).map _) _ _) "MessageType" made
  | disconnect =>
      exact Json.Union.ofTree_rearranged rearranged rfl (.bare _ _ _) "MessageType" made

end Request

namespace FrameMessage

/-- What may stand in the place of the document of a message. -/
def leeway (message : FrameMessage) : Leeway :=
  .object ((versionName, Version.leeway) :: ("type", Eq) :: message.request.parts)

/-- A message is read from the written form of any portable document within its leeway. -/
theorem read_rearranged
    {message : FrameMessage} {document : Json} (within : message.leeway message.toJson document)
    (portable : document.IsPortable Json.maxLevels) (rest : List Char) :
    read Json.maxLevels (document.written ++ rest) = .ok (message, rest) := by
  rcases within with ⟨members, others, same, rfl, rearranged⟩
  cases same
  have portable := portable.members
  rcases rearranged.one List.mem_cons_self message.named_version with ⟨version, one, within⟩
  have decoded := Version.decoder_tolerates .stored _ _ _ within
    (message.version.decoder_restores .stored)
  have there := Json.mem_of_named one (List.mem_singleton_self _)
  have reads : Version.decoder.Reads (dataLevels + 1) version message.version := by
    rcases within with ⟨_, inner, _, rfl, _⟩
    exact Version.decoder_reads_object (portable _ there).members decoded
  have request := rearranged.rest
  rw [besidesNamed_version] at request
  exact read_object one reads (Request.ofMembers_rearranged request) portable rest

end FrameMessage

/-! ## Messages from the hub -/

namespace HubMessage

/-- The parts of a message beside its tag. -/
def parts : HubMessage → List (String × Leeway)
  | .connected _ _ => [("protocol_version", Version.leeway), ("frame_id", Eq)]
  | .rejected _ _ => [("reason", Eq), ("protocol_version", Version.leeway)]
  | .sessionClaimed _ _ => [("request_id", Eq), ("claimed", Eq)]
  | .sessionJoined _ _ => [("request_id", Eq), ("joined", Eq)]
  | .sessionDescribed _ _ => [("request_id", Eq), ("session", Session.leeway)]
  | .deliver _ => [("packet", Packet.leeway)]
  | .pong _ => [("seq", Eq)]
  | .error _ _ _ => [("message", Eq), ("request_id", Eq), ("code", Eq)]

/-- What may stand in the place of the document of a message. -/
def leeway (message : HubMessage) : Leeway :=
  .object (("type", Eq) :: message.parts)

/-- A message is restored from any document within its leeway. -/
theorem decoder_restores_rearranged
    {message : HubMessage} {document : Json} (within : message.leeway message.toJson document) :
    decoder.Restores document message.reread := by
  intro origin
  have made := message.decoder_restores origin
  rcases within with ⟨members, others, same, rfl, rearranged⟩
  cases same
  cases message with
  | connected version frame =>
      exact Json.Union.ofTree_rearranged rearranged rfl
        (.record ((Fields.Tolerates.one (by simp [parts]) Version.decoder_tolerates _).both
          (.plain (by simp [parts]) _ _) (by decide) |>.map _) _ _) "HubMessage" made
  | rejected reason version =>
      exact Json.Union.ofTree_rearranged rearranged rfl
        (.record ((Fields.Tolerates.plain (by simp [parts]) _ _).both
          (.one (by simp [parts]) Version.decoder_tolerates _) (by decide) |>.map _) _ _)
        "HubMessage" made
  | sessionClaimed request claimed | sessionJoined request joined =>
      exact Json.Union.ofTree_rearranged rearranged rfl
        (.record ((Fields.Tolerates.plain (by simp [parts]) _ _).both
          (.plain (by simp [parts]) _ _) (by decide) |>.map _) _ _) "HubMessage" made
  | sessionDescribed request session =>
      exact Json.Union.ofTree_rearranged rearranged rfl
        (.record ((Fields.Tolerates.plain (by simp [parts]) _ _).both
          (.one (by simp [parts, Session.leeway]) Session.decoder_tolerates.nullable _) (by decide) |>.map _) _ _)
        "HubMessage" made
  | deliver packet =>
      exact Json.Union.ofTree_rearranged rearranged rfl
        (.record ((Fields.Tolerates.one (by simp [parts]) Packet.decoder_tolerates _).map _) _ _)
        "HubMessage" made
  | pong seq =>
      exact Json.Union.ofTree_rearranged rearranged rfl
        (.record ((Fields.Tolerates.plain (by simp [parts]) _ _).map _) _ _) "HubMessage" made
  | error message request code =>
      exact Json.Union.ofTree_rearranged rearranged rfl
        (.record ((Fields.Tolerates.plain (by simp [parts]) _ _).both
          ((Fields.Tolerates.plain (by simp [parts]) _ _).both (.plain (by simp [parts]) _ _)
            (by decide)) (by decide) |>.map _) _ _) "HubMessage" made

theorem decoder_reads_rearranged
    {message : HubMessage} {document : Json} (within : message.leeway message.toJson document)
    (portable : document.IsPortable Json.maxLevels) :
    decoder.Reads Json.maxLevels document message.reread := by
  have restores := decoder_restores_rearranged within .stored
  rcases within with ⟨_, others, _, rfl, _⟩
  exact Json.Decoder.union_reads portable.members restores

end HubMessage

/-! ## Lines -/

namespace Line

/-- The message of a frame is read from any portable document within its leeway. -/
theorem parseFrame_rearranged
    {message : FrameMessage} {document : Json} (within : message.leeway message.toJson document)
    (portable : document.IsPortable Json.maxLevels)
    {line : String} {blanks : List Char} (blank : ∀ c ∈ blanks, Text.isBlank c = true)
    (text : line.toList = document.written ++ blanks)
    {max : Nat} (short : line.utf8ByteSize ≤ max) : parseFrame line max = .ok message := by
  have reads := FrameMessage.read_rearranged within portable []
  rw [List.append_nil] at reads
  rcases within with ⟨_, others, _, rfl, _⟩
  exact parseWith_written reads blank text short

/-- The message of the hub is read from any portable document within its leeway, with the instants
that were written. -/
theorem parseHub_rearranged
    {message : HubMessage} {document : Json} (within : message.leeway message.toJson document)
    (portable : document.IsPortable Json.maxLevels)
    {line : String} {blanks : List Char} (blank : ∀ c ∈ blanks, Text.isBlank c = true)
    (text : line.toList = document.written ++ blanks) (short : line.utf8ByteSize ≤ maxSize) :
    parseHub line = .ok message.reread := by
  have reads := HubMessage.decoder_reads_rearranged within portable [] .nil
  rw [List.append_nil] at reads
  rcases within with ⟨_, others, _, rfl, _⟩
  exact parseWith_written reads blank text short

/--
A message is read from every text in which the members of its objects stand in any order and among
strangers, just as it is read from its own line: a message of a frame comes back, and so does one of
the hub, with the instants that the texts of its instants name.  These are its instants, unless one
of them is in a leap second that is not at the end of a minute, which no text can tell.  The text has
integers of 64 bits in at most 127 arrays and objects, and is not too long for a line.
-/
theorem parse_ignores_order_and_strangers :
    (∀ (message : FrameMessage) (document : Json), message.leeway message.toJson document →
      document.IsPortable Json.maxLevels →
        ∀ (line : String) (blanks : List Char), (∀ c ∈ blanks, Text.isBlank c = true) →
          line.toList = document.written ++ blanks →
            ∀ max, line.utf8ByteSize ≤ max → parseFrame line max = .ok message) ∧
    ∀ (message : HubMessage) (document : Json), message.leeway message.toJson document →
      document.IsPortable Json.maxLevels →
        ∀ (line : String) (blanks : List Char), (∀ c ∈ blanks, Text.isBlank c = true) →
          line.toList = document.written ++ blanks → line.utf8ByteSize ≤ maxSize →
            parseHub line = .ok message.reread ∧
              ((∀ t ∈ message.instants, t.nano < 1000000000 ∨ t.second = 59) →
                parseHub line = .ok message) := by
  constructor
  · intro message document within portable line blanks blank text max short
    exact parseFrame_rearranged within portable blank text short
  · intro message document within portable line blanks blank text short
    have read := parseHub_rearranged within portable blank text short
    refine ⟨read, fun told => ?_⟩
    have same : message.reread = message := HubMessage.reread_eq_self fun t inside =>
      (told t inside).elim Instant.reread_of_nano_lt Instant.reread_of_last
    rw [read, same]

/-- A ping with a version of three parts, a session and its tag last. -/
def disorderedPing : Json :=
  .object [("session_id", .string "s"), ("seq", .nat 7),
    ("protocol_version", .object [("patch", .array [.null]), ("minor", .nat 0), ("major", .nat 1)]),
    ("type", .string "ping")]

/-- A session with one entry. -/
def lobby : Session where
  id := ⟨"s"⟩
  owner := ⟨1⟩
  createdAt := .epoch
  members := [⟨⟨1⟩, none, .owner, .epoch⟩]

/-- The entry with a colour. -/
def colouredEntry : Json :=
  .object [("role", .string "owner"), ("colour", .nat 5), ("joined_at", Instant.epoch.toJson),
    ("frame_id", .nat 1)]

/-- The session with a colour and the coloured entry. -/
def colouredSession : Json :=
  .object [("colour", .object []), ("members", .array [colouredEntry]),
    ("created_at", Instant.epoch.toJson), ("session_id", .string "s"), ("owner", .nat 1)]

/-- The description of the session, its tag last. -/
def colouredLobby : Json :=
  .object [("session", colouredSession), ("request_id", .nat 3),
    ("type", .string "session_described")]

theorem colouredEntry_within :
    ∀ entry ∈ lobby.members, Member.leeway entry.toJson colouredEntry := by
  intro entry inside
  rw [List.mem_singleton.mp inside]
  refine ⟨_, _, rfl, rfl, [("frame_id", .nat 1), ("role", .string "owner"),
    ("joined_at", Instant.epoch.toJson)], [("colour", .nat 5)], ?_, by decide, by decide⟩
  refine .cons ⟨rfl, ?_⟩ (.cons ⟨rfl, ?_⟩ (.cons ⟨rfl, ?_⟩ .nil)) <;> simp
  · decide
  · decide

theorem colouredSession_within : Session.leeway lobby.toJson colouredSession := by
  refine ⟨_, _, rfl, rfl, [("session_id", .string "s"), ("owner", .nat 1),
    ("created_at", Instant.epoch.toJson), ("members", .array [colouredEntry])],
    [("colour", .object [])], ?_, by decide, by decide⟩
  refine .cons ⟨rfl, ?_⟩ (.cons ⟨rfl, ?_⟩ (.cons ⟨rfl, ?_⟩ (.cons ⟨rfl, ?_⟩ .nil))) <;> simp
  · decide
  · decide
  · decide
  · exact ⟨_, _, rfl, rfl, .cons (colouredEntry_within _ List.mem_cons_self) .nil⟩

theorem disordered_lines_read :
    parseFrame disorderedPing.compact 1024 = .ok (.ofRequest (.ping 7)) ∧
      parseHub colouredLobby.compact = .ok (.sessionDescribed 3 (some lobby)) := by
  constructor
  · have version : Version.leeway Version.current.toJson
        (.object [("patch", .array [.null]), ("minor", .nat 0), ("major", .nat 1)]) := by
      refine ⟨_, _, rfl, rfl, [("major", .nat 1), ("minor", .nat 0)], [("patch", .array [.null])],
        ?_, by decide, by decide⟩
      exact .cons ⟨rfl, by simp; decide⟩ (.cons ⟨rfl, by simp; decide⟩ .nil)
    refine parse_ignores_order_and_strangers.1 _ disorderedPing ?_ (by decide) _ [] (by simp)
      (by simp) _ (by decide +kernel)
    refine ⟨_, _, rfl, rfl, [(FrameMessage.versionName, .object [("patch", .array [.null]),
      ("minor", .nat 0), ("major", .nat 1)]), ("type", .string "ping"), ("seq", .nat 7)],
      [("session_id", .string "s")], ?_, by decide, by decide⟩
    refine .cons ⟨rfl, ?_⟩ (.cons ⟨rfl, ?_⟩ (.cons ⟨rfl, ?_⟩ .nil))
    · simp [FrameMessage.versionName, Request.parts, FrameMessage.ofRequest, version]
    · simp [FrameMessage.versionName, Request.parts, FrameMessage.ofRequest]
    · simp [FrameMessage.versionName, Request.parts, FrameMessage.ofRequest]
      decide
  · refine (parse_ignores_order_and_strangers.2 _ colouredLobby ?_ (by decide) _ [] (by simp)
      (by simp) (by decide +kernel)).2 (by decide)
    refine ⟨_, _, rfl, rfl, [("type", .string "session_described"), ("request_id", .nat 3),
      ("session", colouredSession)], [], ?_, by decide, by simp⟩
    refine .cons ⟨rfl, ?_⟩ (.cons ⟨rfl, ?_⟩ (.cons ⟨rfl, ?_⟩ .nil))
    · simp [HubMessage.parts]
    · simp [HubMessage.parts]
      decide
    · simp [HubMessage.parts, colouredSession_within]

end Line

end SessionBus
