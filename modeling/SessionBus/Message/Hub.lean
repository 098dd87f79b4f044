import SessionBus.Packet
import SessionBus.Version

/-!
# Messages from the hub

What the hub sends to a frame: the answer to its handshake, the answers to its requests, and the
packets of other frames.  An answer to a request carries the number that the frame gave it.
-/

namespace SessionBus

open Json (Decoder Fields Variant)

/-- A message from the hub. -/
inductive HubMessage where
  | connected (version : Version) (frame : FrameId)
  | rejected (reason : String) (version : Version)
  | sessionClaimed (request : UInt64) (claimed : Bool)
  | sessionJoined (request : UInt64) (joined : Bool)
  | sessionDescribed (request : UInt64) (session : Option Session)
  | deliver (packet : Packet)
  | pong (seq : UInt64)
  | error (message : String) (request : Option UInt64) (code : Option String)
deriving DecidableEq

namespace HubMessage

/-- Whether the message hands over a packet. -/
def isDelivery : HubMessage → Bool
  | .deliver _ => true
  | _ => false

def number (n : UInt64) : Json :=
  .nat n.toNat

/-- The acceptance of a frame, in the current version. -/
def accept (frame : FrameId) : HubMessage :=
  .connected .current frame

/-- The refusal of a frame, in the current version. -/
def reject (reason : String) : HubMessage :=
  .rejected reason .current

def complaint (message : String) : HubMessage :=
  .error message none none

def requestError (request : UInt64) (message code : String) : HubMessage :=
  .error message (some request) (some code)

def request? : HubMessage → Option UInt64
  | .sessionClaimed request _ => some request
  | .sessionJoined request _ => some request
  | .sessionDescribed request _ => some request
  | .error _ request _ => request
  | _ => none

def members : HubMessage → List (String × Json)
  | .connected version frame =>
    [("type", .string "connected"), ("protocol_version", version.toJson),
      ("frame_id", frame.toJson)]
  | .rejected reason version =>
    [("type", .string "rejected"), ("reason", .string reason),
      ("protocol_version", version.toJson)]
  | .sessionClaimed request claimed =>
    [("type", .string "session_claimed"), ("request_id", number request),
      ("claimed", .bool claimed)]
  | .sessionJoined request joined =>
    [("type", .string "session_joined"), ("request_id", number request),
      ("joined", .bool joined)]
  | .sessionDescribed request session =>
    [("type", .string "session_described"), ("request_id", number request)] ++
      optionalMember "session" Session.toJson session
  | .deliver packet => [("type", .string "deliver"), ("packet", packet.toJson)]
  | .pong seq => [("type", .string "pong"), ("seq", number seq)]
  | .error message request code =>
    [("type", .string "error"), ("message", .string message)] ++
      optionalMember "request_id" number request ++ optionalMember "code" .string code

def toJson (message : HubMessage) : Json :=
  .object message.members

def variants : List (Variant HubMessage) :=
  [.record "connected" "HubMessage::Connected"
    (((Fields.one "protocol_version" Version.decoder).both
      (Fields.one "frame_id" FrameId.decoder)).map
      fun (version, frame) => .connected version frame),
   .record "rejected" "HubMessage::Rejected"
    (((Fields.one "reason" Decoder.string).both
      (Fields.one "protocol_version" Version.decoder)).map
      fun (reason, version) => .rejected reason version),
   .record "session_claimed" "HubMessage::SessionClaimed"
    (((Fields.one "request_id" Decoder.uint64).both (Fields.one "claimed" Decoder.bool)).map
      fun (request, claimed) => .sessionClaimed request claimed),
   .record "session_joined" "HubMessage::SessionJoined"
    (((Fields.one "request_id" Decoder.uint64).both (Fields.one "joined" Decoder.bool)).map
      fun (request, joined) => .sessionJoined request joined),
   .record "session_described" "HubMessage::SessionDescribed"
    (((Fields.one "request_id" Decoder.uint64).both
      (optionalField "session" Session.decoder)).map
      fun (request, session) => .sessionDescribed request session),
   .record "deliver" "HubMessage::Deliver"
    ((Fields.one "packet" Packet.decoder).map .deliver),
   .record "pong" "HubMessage::Pong" ((Fields.one "seq" Decoder.uint64).map .pong),
   .record "error" "HubMessage::Error"
    (((Fields.one "message" Decoder.string).both
      ((optionalField "request_id" Decoder.uint64).both
        (optionalField "code" Decoder.string))).map
      fun (message, request, code) => .error message request code)]

def decoder : Decoder HubMessage :=
  .union "HubMessage" "type" variants

end HubMessage

end SessionBus
