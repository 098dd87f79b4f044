import SessionBus.Json.Printer
import SessionBus.Message.Hub
import SessionBus.Text.Quoted

/-!
# Messages shown to a reader

Where a message is not the one that was expected, the report of the failure shows it in full: the
name of its kind, and every field with its name and value.
-/

namespace SessionBus

namespace Shown

/-- Something with a name and fields that have names. -/
def record (name : String) (fields : List (String × String)) : String :=
  name ++ " \x7b " ++ ", ".intercalate (fields.map fun (field, value) => field ++ ": " ++ value) ++
    " \x7d"

def wrapped (name content : String) : String :=
  name ++ "(" ++ content ++ ")"

def list (items : List String) : String :=
  "[" ++ ", ".intercalate items ++ "]"

def optional : Option String → String
  | none => "None"
  | some content => wrapped "Some" content

def bool : Bool → String
  | true => "true"
  | false => "false"

def word (n : UInt64) : String :=
  decimal n.toNat

end Shown

open Shown

mutual

def Json.shown : Json → String
  | .null => "Null"
  | .bool b => wrapped "Bool" (Shown.bool b)
  | .number n => wrapped "Number" (String.ofList (Json.Number.text n))
  | .string s => wrapped "String" (Text.quoted s)
  | .array items => "Array " ++ Shown.list (Json.shownItems items)
  | .object members => "Object \x7b" ++ ", ".intercalate (Json.shownMembers members) ++ "\x7d"

def Json.shownItems : List Json → List String
  | [] => []
  | item :: rest => item.shown :: Json.shownItems rest

def Json.shownMembers : List (String × Json) → List String
  | [] => []
  | (name, value) :: rest =>
    (Text.quoted name ++ ": " ++ value.shown) :: Json.shownMembers rest

end

def FrameId.shown (frame : FrameId) : String :=
  wrapped "FrameId" (word frame.value)

def SessionId.shown (session : SessionId) : String :=
  wrapped "SessionId" (Text.quoted session.key)

def Version.shown (version : Version) : String :=
  record "ProtocolVersion"
    [("major", decimal version.major.toNat), ("minor", decimal version.minor.toNat)]

def Role.shown : Role → String
  | .owner => "Owner"
  | .member => "Member"

def Instant.shown (t : Instant) : String :=
  String.ofList t.text

def Member.shown (member : Member) : String :=
  record "MemberInfo"
    [("frame_id", member.frame.shown),
      ("display_name", optional (member.displayName.map Text.quoted)),
      ("role", member.role.shown), ("joined_at", member.joinedAt.shown)]

def Session.shown (session : Session) : String :=
  record "SessionInfo"
    [("session_id", session.id.shown), ("owner", session.owner.shown),
      ("created_at", session.createdAt.shown),
      ("members", Shown.list (session.members.map Member.shown))]

def Packet.shown (packet : Packet) : String :=
  record "Packet"
    [("topic", Text.quoted packet.topic), ("data", packet.data.document.shown),
      ("sender_frame_id", packet.sender.shown),
      ("session_id", optional (packet.session.map SessionId.shown)),
      ("destination_frame_id", optional (packet.destination.map FrameId.shown))]

/-- Shows the session that a frame works in. -/
def Binding.shown : Binding → String
  | .unbound => "Unbound"
  | .owner session => wrapped "Owner" session.shown
  | .member session => wrapped "Member" session.shown

def HubMessage.shown : HubMessage → String
  | .connected version frame =>
    record "Connected" [("protocol_version", version.shown), ("frame_id", frame.shown)]
  | .rejected reason version =>
    record "Rejected" [("reason", Text.quoted reason), ("protocol_version", version.shown)]
  | .sessionClaimed request claimed =>
    record "SessionClaimed" [("request_id", word request), ("claimed", Shown.bool claimed)]
  | .sessionJoined request joined =>
    record "SessionJoined" [("request_id", word request), ("joined", Shown.bool joined)]
  | .sessionDescribed request session =>
    record "SessionDescribed"
      [("request_id", word request), ("session", optional (session.map Session.shown))]
  | .deliver packet => record "Deliver" [("packet", packet.shown)]
  | .pong seq => record "Pong" [("seq", word seq)]
  | .error message request code =>
    record "Error"
      [("message", Text.quoted message), ("request_id", optional (request.map word)),
        ("code", optional (code.map Text.quoted))]

end SessionBus
