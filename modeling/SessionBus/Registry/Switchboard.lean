import SessionBus.Packet
import SessionBus.Registry.Table

/-!
# The switchboard

The switchboard knows the registered frames and the table of sessions, gives out identities and
routes packets.  It takes one command at a time; a `Turn` is all that a command brings about: the
answer, the switchboard afterwards, the events for observers and the packets for inboxes.

Identities are given out in order, starting at one, and never again; a frame that leaves keeps its
sessions and memberships.
-/

namespace SessionBus

/-- How many frames and sessions a switchboard takes. -/
structure Limits where
  maxFrames : Nat := 256
  maxSessions : Nat := 1024
deriving DecidableEq, Repr

/-- A change that observers are told of. -/
inductive Event where
  | registered (frame : FrameId)
  | unregistered (frame : FrameId)
  | claimed (session : SessionId) (owner : FrameId)
  | joined (session : SessionId) (frame : FrameId) (displayName : String)
deriving DecidableEq, Repr

/-- The registered frames, the next identity, and the sessions. -/
structure Switchboard where
  maxFrames : Nat
  frames : FrameSet
  nextFrame : UInt64
  table : SessionTable
deriving DecidableEq

/-- What a command brings about. -/
structure Turn (α : Type) where
  reply : α
  board : Switchboard
  events : List Event := []
  deliveries : List (FrameId × Packet) := []

/-- The turn with its answer put in another form. -/
def Turn.map {α β : Type} (f : α → β) (turn : Turn α) : Turn β :=
  { turn with reply := f turn.reply }

namespace Switchboard

/-- The switchboard without frames and sessions. -/
def empty (limits : Limits) : Switchboard where
  maxFrames := limits.maxFrames
  frames := .empty
  nextFrame := 1
  table := .empty limits.maxSessions

/-- The identity after another one; the last is its own successor. -/
def successor (n : UInt64) : UInt64 :=
  if n.toNat + 1 < UInt64.size then n + 1 else n

/-- Takes in a frame and gives it the next identity. -/
def register (board : Switchboard) : Turn (Except SwitchboardError FrameId) :=
  if board.maxFrames ≤ board.frames.size then
    { reply := .error (.tooManyFrames board.maxFrames), board }
  else
    let frame : FrameId := ⟨board.nextFrame⟩
    { reply := .ok frame
      board := { board with
        frames := board.frames.insert frame
        nextFrame := successor board.nextFrame }
      events := [.registered frame] }

def unregister (board : Switchboard) (frame : FrameId) : Turn Unit :=
  if board.frames.contains frame then
    { reply := ()
      board := { board with frames := board.frames.erase frame }
      events := [.unregistered frame] }
  else { reply := (), board }

/-- A frame's claim to own a session. -/
def claim (board : Switchboard) (frame : FrameId) (session : SessionId) (now : Instant) :
    Turn (Except SwitchboardError Bool) :=
  match board.table.claim frame session now with
  | .error error => { reply := .error error, board }
  | .ok (outcome, table) =>
    { reply := .ok outcome.succeeded
      board := { board with table }
      events := if outcome = .claimed then [.claimed session frame] else [] }

/-- A frame's wish to join a session. -/
def join (board : Switchboard) (frame : FrameId) (session : SessionId) (displayName : String)
    (now : Instant) : Turn Bool :=
  let (outcome, table) := board.table.join frame session displayName now
  { reply := outcome.succeeded
    board := { board with table }
    events := if outcome = .noOwner then [] else [.joined session frame displayName] }

/-- Hands a packet to the frames of a route. -/
def deliver (board : Switchboard) (route : Route) (packet : Packet) : Turn Unit where
  reply := ()
  board := board
  deliveries :=
    (board.frames.toList.filter fun frame => route.includes frame packet.sender).map
      fun frame => (frame, packet)

end Switchboard

/-- What a switchboard is asked. -/
inductive Command where
  | register
  | unregister (frame : FrameId)
  | claim (frame : FrameId) (session : SessionId)
  | join (frame : FrameId) (session : SessionId) (displayName : String)
  | describe (session : SessionId)
  | list
  | count
  | deliver (route : Route) (packet : Packet)
deriving DecidableEq

/-- What a switchboard answers. -/
inductive Reply where
  | registered (result : Except SwitchboardError FrameId)
  | claimed (result : Except SwitchboardError Bool)
  | joined (result : Bool)
  | described (session : Option Session)
  | listed (sessions : List Session)
  | counted (frames : Nat)
  | nothing

namespace Switchboard

/-- The turn of a command. -/
def handle (board : Switchboard) (now : Instant) : Command → Turn Reply
  | .register => board.register.map .registered
  | .unregister frame => (board.unregister frame).map fun _ => .nothing
  | .claim frame session => (board.claim frame session now).map .claimed
  | .join frame session displayName => (board.join frame session displayName now).map .joined
  | .describe session => { reply := .described (board.table.describe session), board }
  | .list => { reply := .listed board.table.sessions, board }
  | .count => { reply := .counted board.frames.size, board }
  | .deliver route packet => (board.deliver route packet).map fun _ => .nothing

end Switchboard

end SessionBus
