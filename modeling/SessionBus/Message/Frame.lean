import SessionBus.Packet
import SessionBus.Version

/-!
# Messages from frames

What a frame sends to the hub: the version of the protocol that it speaks and a request.  Both are
written into one object, the version first, then the tag `type` and the fields of the request.  A
reader takes the version as it comes and keeps all other members until the tag is known.
-/

namespace SessionBus

open Json (Cause Decoder Fields Reader Variant)

/-- What a frame asks of the hub. -/
inductive Request where
  | connect (displayName : Option String)
  | claimSession (request : UInt64) (session : SessionId)
  | joinSession (request : UInt64) (session : SessionId) (displayName : String)
  | describeSession (request : UInt64) (session : SessionId)
  | send (route : Route) (packet : Packet)
  | ping (seq : UInt64)
  | disconnect
deriving DecidableEq

namespace Request

def number (n : UInt64) : Json :=
  .nat n.toNat

def members : Request → List (String × Json)
  | .connect displayName =>
    [("type", .string "connect")] ++ optionalMember "display_name" .string displayName
  | .claimSession request session =>
    [("type", .string "claim_session"), ("request_id", number request),
      ("session_id", session.toJson)]
  | .joinSession request session displayName =>
    [("type", .string "join_session"), ("request_id", number request),
      ("session_id", session.toJson), ("display_name", .string displayName)]
  | .describeSession request session =>
    [("type", .string "describe_session"), ("request_id", number request),
      ("session_id", session.toJson)]
  | .send route packet =>
    [("type", .string "send"), ("route", route.toJson), ("packet", packet.toJson)]
  | .ping seq => [("type", .string "ping"), ("seq", number seq)]
  | .disconnect => [("type", .string "disconnect")]

def variants : List (Variant Request) :=
  [.record "connect" "MessageType::Connect"
    ((optionalField "display_name" Decoder.string).map .connect),
   .record "claim_session" "MessageType::ClaimSession"
    (((Fields.one "request_id" Decoder.uint64).both
      (Fields.one "session_id" SessionId.decoder)).map
      fun (request, session) => .claimSession request session),
   .record "join_session" "MessageType::JoinSession"
    (((Fields.one "request_id" Decoder.uint64).both
      ((Fields.one "session_id" SessionId.decoder).both
        (Fields.one "display_name" Decoder.string))).map
      fun (request, session, displayName) => .joinSession request session displayName),
   .record "describe_session" "MessageType::DescribeSession"
    (((Fields.one "request_id" Decoder.uint64).both
      (Fields.one "session_id" SessionId.decoder)).map
      fun (request, session) => .describeSession request session),
   .record "send" "MessageType::Send"
    (((Fields.one "route" Route.decoder).both (Fields.one "packet" Packet.decoder)).map
      fun (route, packet) => .send route packet),
   .record "ping" "MessageType::Ping" ((Fields.one "seq" Decoder.uint64).map .ping),
   .bare "disconnect" .disconnect]

/-- The request that buffered members stand for. -/
def ofMembers (members : List (String × Json)) : Except Cause Request :=
  Json.Union.ofTree "MessageType" "type" variants .buffered (.object members)

end Request

/-- A message from a frame. -/
structure FrameMessage where
  version : Version
  request : Request
deriving DecidableEq

namespace FrameMessage

def ofRequest (request : Request) : FrameMessage :=
  ⟨.current, request⟩

/-- The name of the member that holds the version. -/
def versionName : String := "protocol_version"

def toJson (message : FrameMessage) : Json :=
  .object ((versionName, message.version.toJson) :: message.request.members)

/-- The version read so far, and the other members in reverse. -/
abbrev Partial := Option Version × List (String × Json)

/-- Reads a member of a message from its text, which starts before the colon. -/
def readMember (levels : Nat) (name : String) (found : Partial) : Reader Partial := fun text =>
  if name = versionName then
    match found.1 with
    | some _ => .error (.unplaced (.duplicateField versionName) text)
    | none => do
      let ((), rest) ← Json.readColon text
      let (version, rest) ← Version.decoder.text levels rest
      return ((some version, found.2), rest)
  else do
    let ((), rest) ← Json.readColon text
    let (value, rest) ← Json.readJson levels rest
    return ((found.1, (name, value) :: found.2), rest)

/-- Reads a message after its opening brace. -/
def readObject (levels : Nat) : Reader FrameMessage := fun text => do
  let ((version, others), rest) ←
    Json.readMembers (readMember levels) text true (none, []) text
  match version with
  | none => .error (.unplaced (.missingField versionName) rest)
  | some version => do
    let (request, rest) ← Decoder.atRest (Request.ofMembers others.reverse) rest
    return (⟨version, request⟩, rest)

def read (levels : Nat) : Reader FrameMessage :=
  Decoder.openingThen "struct FrameMessage" none
    (some (Json.enclosed levels Json.closeObject readObject))

end FrameMessage

end SessionBus
