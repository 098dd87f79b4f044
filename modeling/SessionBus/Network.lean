import SessionBus.Connector
import SessionBus.Packet.Payload
import SessionBus.Transport.Memory
import SessionBus.Transport.Sockets

/-!
# Connectors on one bus

The connectors of a bus share a transport: an exchange in memory, or a hub behind a socket.  Every
operation runs to its end before the next one, so that each packet has reached the receivers that
it is meant for.
-/

namespace SessionBus

/-- How frames reach the bus. -/
inductive Transport where
  | direct (exchange : Exchange)
  | linked (sockets : Sockets)

namespace Transport

def attach (now : Instant) : Transport → Except TransportError FrameId × Transport
  | .direct exchange =>
    let (result, exchange) := Memory.attach exchange
    (result, .direct exchange)
  | .linked sockets =>
    let (result, sockets) := sockets.attach now
    (result, .linked sockets)

/-- Makes a call for a frame.  There is no result if the call is left without an answer. -/
def call (frame : FrameId) (now : Instant) (what : Call) :
    Transport → Option (Except TransportError CallResult) × Transport
  | .direct exchange =>
    let (result, exchange) := Memory.call exchange frame now what
    (some result, .direct exchange)
  | .linked sockets =>
    let (result, sockets) := sockets.call frame now what
    (result, .linked sockets)

def send (frame : FrameId) (now : Instant) (route : Route) (packet : Packet) :
    Transport → Transport
  | .direct exchange => .direct (exchange.deliver route packet)
  | .linked sockets => .linked (sockets.send frame now route packet)

def detach (frame : FrameId) (now : Instant) : Transport → Transport
  | .direct exchange => .direct (exchange.unregister frame)
  | .linked sockets => .linked (sockets.detach frame now)

/-- Takes the packets that have come for a frame. -/
def collect (frame : FrameId) : Transport → List Packet × Transport
  | .direct exchange =>
    let (packets, exchange) := exchange.collect frame
    (packets, .direct exchange)
  | .linked sockets =>
    let (packets, sockets) := sockets.collect frame
    (packets, .linked sockets)

def exchange : Transport → Exchange
  | .direct exchange => exchange
  | .linked sockets => sockets.hub.exchange

/-- Goes on with the exchange after others have used it. -/
def resume (exchange : Exchange) : Transport → Transport
  | .direct _ => .direct exchange
  | .linked sockets => .linked (sockets.resume exchange)

/-- Stops the service behind the transport. -/
def stop : Transport → Transport
  | .direct exchange => .direct exchange.stop
  | .linked sockets => .linked sockets.shutdown

end Transport

/-- A transport with the connectors that use it, the closed ones included. -/
structure Network where
  transport : Transport
  connectors : List Connector

namespace Network

def start (transport : Transport) : Network :=
  ⟨transport, []⟩

def connector? (network : Network) (frame : FrameId) : Option Connector :=
  network.connectors.find? fun connector => connector.frame == frame

def modify (network : Network) (frame : FrameId) (change : Connector → Connector) : Network :=
  { network with
    connectors := network.connectors.map fun connector =>
      if connector.frame = frame then change connector else connector }

/-- Lets every connector pass on the packets that have come for its frame. -/
def settle (network : Network) : Network :=
  let (transport, connectors) := network.connectors.foldl
    (fun (transport, done) connector =>
      let (packets, transport) := transport.collect connector.frame
      (transport, done ++ [packets.foldl Connector.dispatch connector]))
    (network.transport, [])
  ⟨transport, connectors⟩

def connect (network : Network) (now : Instant) : Except TransportError FrameId × Network :=
  match network.transport.attach now with
  | (.error error, transport) => (.error error, { network with transport }.settle)
  | (.ok frame, transport) =>
    (.ok frame,
      { network with
        transport
        connectors := network.connectors ++ [Connector.attached frame] }.settle)

def call (network : Network) (frame : FrameId) (now : Instant) (what : Call) :
    Option (Except TransportError CallResult) × Network :=
  let (result, transport) := network.transport.call frame now what
  (result, { network with transport })

/-- Claims a session for a frame, which then works in it. -/
def create (network : Network) (frame : FrameId) (now : Instant) (session : SessionId) :
    Option (Except TransportError Bool) × Network :=
  match network.call frame now (.claim session) with
  | (some (.ok (.claimed claimed)), network) =>
    (some (.ok claimed), (network.modify frame (·.afterClaim session claimed)).settle)
  | (some (.error error), network) => (some (.error error), network.settle)
  | (_, network) => (none, network.settle)

/-- Joins a session for a frame, which then works in it. -/
def join (network : Network) (frame : FrameId) (now : Instant) (session : SessionId)
    (displayName : String) : Option (Except TransportError Bool) × Network :=
  match network.call frame now (.join session displayName) with
  | (some (.ok (.joined joined)), network) =>
    (some (.ok joined), (network.modify frame (·.afterJoin session joined)).settle)
  | (some (.error error), network) => (some (.error error), network.settle)
  | (_, network) => (none, network.settle)

def describe (network : Network) (frame : FrameId) (now : Instant) (session : SessionId) :
    Option (Except TransportError (Option Session)) × Network :=
  match network.call frame now (.describe session) with
  | (some (.ok (.described found)), network) => (some (.ok found), network.settle)
  | (some (.error error), network) => (some (.error error), network.settle)
  | (_, network) => (none, network.settle)

def send (network : Network) (frame : FrameId) (now : Instant) (route : Route)
    (packet : Packet) : Network :=
  { network with transport := network.transport.send frame now route packet }.settle

/-- Sends a payload to the session that a frame works in.  Without a session nothing is sent. -/
def broadcast (network : Network) (frame : FrameId) (now : Instant) (topic : String)
    (payload : Payload) : Except PayloadError Network := do
  let data ← payload.encode topic
  match (network.connector? frame).bind (·.broadcast? topic data) with
  | none => return network
  | some packet => return network.send frame now .broadcast packet

/-- Sends a payload from a frame to another one. -/
def unicast (network : Network) (frame : FrameId) (now : Instant) (topic : String)
    (payload : Payload) (destination : FrameId) : Except PayloadError Network := do
  let data ← payload.encode topic
  return network.send frame now (.toFrame destination)
    (.toFrame topic data frame destination)

/-- Opens a receiver of a frame for a topic. -/
def receiver (network : Network) (frame : FrameId) (topic : String) :
    Option Ticket × Network :=
  match network.connector? frame with
  | none => (none, network)
  | some connector =>
    let (ticket, changed) := connector.receiver topic
    (some ticket, network.modify frame fun _ => changed)

/-- Takes all packets that wait for a receiver of a frame. -/
def drain (network : Network) (frame : FrameId) (ticket : Ticket) : List Packet × Network :=
  match network.connector? frame with
  | none => ([], network)
  | some connector =>
    let (packets, topics) := connector.topics.drain ticket
    (packets, network.modify frame fun _ => { connector with topics })

def dropReceiver (network : Network) (frame : FrameId) (ticket : Ticket) : Network :=
  network.modify frame fun connector =>
    { connector with topics := connector.topics.drop ticket }

/-- Closes the connector of a frame and lets the frame go. -/
def close (network : Network) (frame : FrameId) (now : Instant) : Network :=
  { network.modify frame Connector.close with
    transport := network.transport.detach frame now }.settle

/-- Goes on with the exchange after others have used it. -/
def resume (network : Network) (exchange : Exchange) : Network :=
  { network with transport := network.transport.resume exchange }.settle

def stop (network : Network) : Network :=
  { network with transport := network.transport.stop }.settle

end Network

end SessionBus
