import SessionBus.Frame
import SessionBus.Instant
import SessionBus.Json.Union

/-!
# Sessions

A session is a group of frames under a key that the application chooses.  Its record names the
owner, who is the first of its members, and every member with its role and, where it gave one, a
name for display.

`Binding` is a frame's own view: the session it works in now, and in which role.
-/

namespace SessionBus

open Json (Decoder Fields)

/-- The key of a session. -/
structure SessionId where
  key : String
deriving DecidableEq, Repr, Inhabited

namespace SessionId

/-- The key of a whole number is its decimal text. -/
def ofInt (n : Int) : SessionId :=
  ⟨String.ofList (Json.Number.text (.integer n))⟩

/-- Keys are ordered as text. -/
def le (a b : SessionId) : Bool :=
  decide (a.key ≤ b.key)

def toJson (session : SessionId) : Json :=
  .string session.key

def decoder : Decoder SessionId :=
  Decoder.string.map SessionId.mk

end SessionId

/-- How a frame belongs to a session. -/
inductive Role where
  | owner
  | member
deriving DecidableEq, Repr

namespace Role

def name : Role → String
  | .owner => "owner"
  | .member => "member"

def toJson (role : Role) : Json :=
  .string role.name

def decoder : Decoder Role :=
  .choice [("owner", .owner), ("member", .member)]

end Role

/-- A member that is written only when it is there. -/
def optionalMember {α : Type} (name : String) (toJson : α → Json) : Option α → List (String × Json)
  | none => []
  | some value => [(name, toJson value)]

def optionalField {α : Type} (name : String) (decoder : Decoder α) : Fields (Option α) :=
  .one name decoder.nullable (.anywhere none)

/-- A frame's entry in a session. -/
structure Member where
  frame : FrameId
  displayName : Option String
  role : Role
  joinedAt : Instant
deriving DecidableEq, Repr

namespace Member

def toJson (member : Member) : Json :=
  .object ([("frame_id", member.frame.toJson)] ++
    optionalMember "display_name" .string member.displayName ++
    [("role", member.role.toJson), ("joined_at", member.joinedAt.toJson)])

def decoder : Decoder Member :=
  .record "MemberInfo" <|
    ((Fields.one "frame_id" FrameId.decoder).both
      ((optionalField "display_name" Decoder.string).both
        ((Fields.one "role" Role.decoder).both
          (Fields.one "joined_at" Instant.decoder)))).map
      fun (frame, displayName, role, joinedAt) => { frame, displayName, role, joinedAt }

end Member

/-- The record of a session. -/
structure Session where
  id : SessionId
  owner : FrameId
  createdAt : Instant
  members : List Member
deriving DecidableEq, Repr

namespace Session

def hasMember (session : Session) (frame : FrameId) : Bool :=
  session.members.any (·.frame == frame)

/-- The names of the members that have one, in the order of the members. -/
def displayNames (session : Session) : List String :=
  session.members.filterMap (·.displayName)

def toJson (session : Session) : Json :=
  .object [("session_id", session.id.toJson), ("owner", session.owner.toJson),
    ("created_at", session.createdAt.toJson),
    ("members", .array (session.members.map Member.toJson))]

def decoder : Decoder Session :=
  .record "SessionInfo" <|
    ((Fields.one "session_id" SessionId.decoder).both
      ((Fields.one "owner" FrameId.decoder).both
        ((Fields.one "created_at" Instant.decoder).both
          (Fields.one "members" (Decoder.list Member.decoder))))).map
      fun (id, owner, createdAt, members) => { id, owner, createdAt, members }

end Session

/-- A frame's own view of the session that it works in. -/
inductive Binding where
  | unbound
  | owner (session : SessionId)
  | member (session : SessionId)
deriving DecidableEq, Repr

namespace Binding

/-- The session that a frame works in. -/
def session? : Binding → Option SessionId
  | .unbound => none
  | .owner session => some session
  | .member session => some session

def isBound (binding : Binding) : Bool :=
  binding.session?.isSome

end Binding

end SessionBus
