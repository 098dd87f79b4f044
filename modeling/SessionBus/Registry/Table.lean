import SessionBus.Session

/-!
# The table of sessions

The first frame that claims a session owns it for good and is its first member.  Other frames join
a session once it has an owner.  Records are kept in the order of their keys, at most `maxSessions`
of them, and none is ever removed.
-/

namespace SessionBus

/-- Why the switchboard refuses a request. -/
inductive SwitchboardError where
  | tooManyFrames (max : Nat)
  | tooManySessions (max : Nat)
  | closed
deriving DecidableEq, Repr

namespace SwitchboardError

def message : SwitchboardError → String
  | .tooManyFrames max => "too many frames (max: " ++ decimal max ++ ")"
  | .tooManySessions max => "too many sessions (max: " ++ decimal max ++ ")"
  | .closed => "switchboard channel closed"

/-- The name of an error on the wire. -/
def code : SwitchboardError → String
  | .tooManyFrames _ => "too_many_frames"
  | .tooManySessions _ => "too_many_sessions"
  | .closed => "channel_closed"

end SwitchboardError

/-- What became of a claim. -/
inductive ClaimOutcome where
  | claimed
  | alreadyOwner
  | ownedBy (owner : FrameId)
deriving DecidableEq, Repr

/-- Whether the claimant owns the session afterwards. -/
def ClaimOutcome.succeeded : ClaimOutcome → Bool
  | .claimed => true
  | .alreadyOwner => true
  | .ownedBy _ => false

/-- What became of a wish to join. -/
inductive JoinOutcome where
  | joined
  | alreadyMember
  | noOwner
deriving DecidableEq, Repr

/-- Whether the frame is a member afterwards. -/
def JoinOutcome.succeeded : JoinOutcome → Bool
  | .joined => true
  | .alreadyMember => true
  | .noOwner => false

namespace Session

/-- A new session, whose owner is its only member. -/
def founded (id : SessionId) (owner : FrameId) (now : Instant) : Session where
  id := id
  owner := owner
  createdAt := now
  members := [{ frame := owner, displayName := none, role := .owner, joinedAt := now }]

/-- The session with another name for one of its members. -/
def rename (session : Session) (frame : FrameId) (displayName : String) : Session :=
  { session with
    members := session.members.map fun member =>
      if member.frame = frame then { member with displayName := some displayName } else member }

def enroll (session : Session) (frame : FrameId) (displayName : String) (now : Instant) : Session :=
  { session with
    members := session.members ++
      [{ frame := frame, displayName := some displayName, role := .member, joinedAt := now }] }

end Session

/-- The sessions that frames have claimed, in the order of their keys. -/
structure SessionTable where
  maxSessions : Nat
  sessions : List Session
deriving DecidableEq, Repr

namespace SessionTable

def empty (maxSessions : Nat) : SessionTable :=
  ⟨maxSessions, []⟩

def size (table : SessionTable) : Nat :=
  table.sessions.length

def describe (table : SessionTable) (id : SessionId) : Option Session :=
  table.sessions.find? fun session => session.id == id

/-- Puts a record in front of the first one with a greater key. -/
def insertSession (session : Session) : List Session → List Session
  | [] => [session]
  | next :: rest =>
    if session.id.key < next.id.key then session :: next :: rest
    else next :: insertSession session rest

def modify (table : SessionTable) (id : SessionId) (change : Session → Session) : SessionTable :=
  { table with
    sessions := table.sessions.map fun session =>
      if session.id = id then change session else session }

/-- A frame's claim to own a session.  The room in the table matters only for a new session. -/
def claim (table : SessionTable) (frame : FrameId) (id : SessionId) (now : Instant) :
    Except SwitchboardError (ClaimOutcome × SessionTable) :=
  match table.describe id with
  | some session =>
    .ok (if session.owner = frame then .alreadyOwner else .ownedBy session.owner, table)
  | none =>
    if table.maxSessions ≤ table.size then .error (.tooManySessions table.maxSessions)
    else
      .ok (.claimed,
        { table with sessions := insertSession (.founded id frame now) table.sessions })

/-- A frame's wish to join a session.  A member that joins again takes the new name. -/
def join (table : SessionTable) (frame : FrameId) (id : SessionId) (displayName : String)
    (now : Instant) : JoinOutcome × SessionTable :=
  match table.describe id with
  | none => (.noOwner, table)
  | some session =>
    if session.hasMember frame then
      (.alreadyMember, table.modify id (·.rename frame displayName))
    else (.joined, table.modify id (·.enroll frame displayName now))

end SessionTable

end SessionBus
