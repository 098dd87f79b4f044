import SessionBus.Message.Shown
import SessionBus.Topic.Router

/-!
# Connectors

A connector is one frame's view of the bus.  It knows the sessions that the frame owns or has
joined and the one that it works in now, gives broadcasts the session that they belong to, and
passes the packets that are meant for the frame on to the receivers of their topics.
-/

namespace SessionBus

/-- A frame with its sessions and its receivers. -/
structure Connector where
  frame : FrameId
  binding : Binding
  memberships : List SessionId
  topics : TopicRouter
deriving DecidableEq

namespace Connector

/-- The connector of a frame that has just been taken in. -/
def attached (frame : FrameId) : Connector where
  frame := frame
  binding := .unbound
  memberships := []
  topics := .empty

/-- Whether the frame owns or has joined a session. -/
def isMember (connector : Connector) (session : SessionId) : Bool :=
  connector.memberships.contains session

def withMembership (connector : Connector) (session : SessionId) : List SessionId :=
  if connector.isMember session then connector.memberships
  else connector.memberships ++ [session]

/-- The connector after a claim was answered. -/
def afterClaim (connector : Connector) (session : SessionId) (claimed : Bool) : Connector :=
  if claimed then
    { connector with
      memberships := connector.withMembership session
      binding := .owner session }
  else connector

/-- The connector after a wish to join was answered.  Who works in a session as its owner remains
the owner. -/
def afterJoin (connector : Connector) (session : SessionId) (joined : Bool) : Connector :=
  if joined then
    { connector with
      memberships := connector.withMembership session
      binding := if connector.binding = .owner session then .owner session else .member session }
  else connector

/-- The broadcast of some data, if the frame works in a session. -/
def broadcast? (connector : Connector) (topic : String) (data : Json.Value) : Option Packet :=
  connector.binding.session?.map fun session =>
    .ofSession topic data connector.frame session

/-- Whether a packet is meant for the frame: never one of its own, a packet with a destination only
if it is that frame, any other only if it belongs to a session of the frame. -/
def accepts (connector : Connector) (packet : Packet) : Bool :=
  if packet.sender = connector.frame then false
  else
    match packet.destination, packet.session with
    | some destination, _ => destination == connector.frame
    | none, some session => connector.isMember session
    | none, none => false

/-- Passes a packet on, if it is meant for the frame. -/
def dispatch (connector : Connector) (packet : Packet) : Connector :=
  if connector.topics.closed then connector
  else if connector.accepts packet then
    { connector with topics := (connector.topics.publish packet).2 }
  else connector

def receiver (connector : Connector) (topic : String) : Ticket × Connector :=
  let (ticket, topics) := connector.topics.subscribe topic
  (ticket, { connector with topics })

def close (connector : Connector) : Connector :=
  { connector with topics := connector.topics.close }

def isClosed (connector : Connector) : Bool :=
  connector.topics.closed

def shown (connector : Connector) : String :=
  "WindowConnector \x7b frame_id: " ++ connector.frame.shown ++ ", session: " ++
    connector.binding.shown ++ ", .. \x7d"

end Connector

end SessionBus
