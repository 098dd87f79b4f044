import SessionBus.Packet

/-!
# Topic router

A router hands each packet to the receivers of its topic.  A receiver gets the packets that are
published after its subscription, in order; it may be dropped at any time, and the router forgets
it the next time that it publishes on the topic.  When the router is closed no receiver gets more,
but what already waits can still be read.
-/

namespace SessionBus

/-- The number under which a router knows a receiver. -/
abbrev Ticket := Nat

/-- A receiver with the packets that wait for it. -/
structure Receiver where
  ticket : Ticket
  topic : String
  packets : List Packet
deriving DecidableEq

/-- The subscriptions of each topic, in order, and the receivers that are not dropped. -/
structure TopicRouter where
  topics : List (String × List Ticket)
  receivers : List Receiver
  next : Ticket
  closed : Bool
deriving DecidableEq

namespace TopicRouter

def empty : TopicRouter :=
  ⟨[], [], 0, false⟩

def tickets (router : TopicRouter) (topic : String) : List Ticket :=
  (router.topics.lookup topic).getD []

/-- Sets the subscriptions of a topic; a topic without subscriptions is left out. -/
def setTickets (topics : List (String × List Ticket)) (topic : String) (tickets : List Ticket) :
    List (String × List Ticket) :=
  let others := topics.filter fun entry => entry.1 != topic
  if tickets.isEmpty then others else (topic, tickets) :: others

/-- The receiver of a ticket, unless it is dropped. -/
def receiver? (router : TopicRouter) (ticket : Ticket) : Option Receiver :=
  router.receivers.find? fun receiver => receiver.ticket == ticket

/-- Whether the receiver of a ticket is still there. -/
def isLive (router : TopicRouter) (ticket : Ticket) : Bool :=
  (router.receiver? ticket).isSome

/-- Opens a receiver for a topic.  A closed router gives one that never gets a packet. -/
def subscribe (router : TopicRouter) (topic : String) : Ticket × TopicRouter :=
  let ticket := router.next
  (ticket,
    { router with
      topics :=
        if router.closed then router.topics
        else setTickets router.topics topic (router.tickets topic ++ [ticket])
      receivers := router.receivers ++ [⟨ticket, topic, []⟩]
      next := ticket + 1 })

/-- Hands a packet to the receivers of its topic and forgets those that are dropped.  The answer is
the number of receivers that got the packet. -/
def publish (router : TopicRouter) (packet : Packet) : Nat × TopicRouter :=
  let live := (router.tickets packet.topic).filter router.isLive
  (live.length,
    { router with
      topics := setTickets router.topics packet.topic live
      receivers := router.receivers.map fun receiver =>
        if live.contains receiver.ticket then
          { receiver with packets := receiver.packets ++ [packet] }
        else receiver })

/-- The number of receivers that a packet on a topic would reach. -/
def subscriberCount (router : TopicRouter) (topic : String) : Nat :=
  ((router.tickets topic).filter router.isLive).length

/-- Changes the packets that wait for a receiver. -/
def setPackets (router : TopicRouter) (ticket : Ticket) (packets : List Packet) : TopicRouter :=
  { router with
    receivers := router.receivers.map fun receiver =>
      if receiver.ticket = ticket then { receiver with packets } else receiver }

/-- Takes the first packet that waits for a receiver. -/
def receive (router : TopicRouter) (ticket : Ticket) : Option Packet × TopicRouter :=
  match (router.receiver? ticket).map (·.packets) with
  | some (packet :: rest) => (some packet, router.setPackets ticket rest)
  | _ => (none, router)

/-- Takes all packets that wait for a receiver. -/
def drain (router : TopicRouter) (ticket : Ticket) : List Packet × TopicRouter :=
  (((router.receiver? ticket).map (·.packets)).getD [], router.setPackets ticket [])

/-- Drops a receiver with all that waits for it. -/
def drop (router : TopicRouter) (ticket : Ticket) : TopicRouter :=
  { router with receivers := router.receivers.filter fun receiver => receiver.ticket != ticket }

/-- Ends all receivers, those to come included. -/
def close (router : TopicRouter) : TopicRouter :=
  { router with topics := [], closed := true }

/-- Whether a receiver has got all that it will ever get. -/
def hasEnded (router : TopicRouter) (ticket : Ticket) : Bool :=
  router.closed && ((router.receiver? ticket).all fun receiver => receiver.packets.isEmpty)

end TopicRouter

end SessionBus
