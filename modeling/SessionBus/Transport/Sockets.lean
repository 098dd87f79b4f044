import SessionBus.Hub.Server
import SessionBus.Transport.Link

/-!
# Frames that reach the bus through a hub

Every frame has a connection of its own.  Each function lets what it starts come to an end: the hub
handles the line, and every link takes the lines that the hub writes to it.
-/

namespace SessionBus

/-- A frame's link, the number of its connection, and the packets that have come for the frame. -/
structure Endpoint where
  link : SocketLink
  connection : Nat
  inbound : List Packet

/-- A call that has come to its end: the frame, the number of its request, and the result. -/
structure Completion where
  frame : FrameId
  request : UInt64
  result : Except TransportError CallResult

namespace Endpoint

/-- The endpoint after an output of its link, and the call that ended with it. -/
def follow (endpoint : Endpoint) : LinkOutput → Endpoint × Option Completion
  | .packet packet => ({ endpoint with inbound := endpoint.inbound ++ [packet] }, none)
  | .completed request result => (endpoint, some ⟨endpoint.link.frame, request, result⟩)
  | .nothing => (endpoint, none)

/-- What a link makes of what the hub does on its connection. -/
def take (endpoint : Endpoint) (output : Output) : Endpoint × List Completion :=
  match output with
  | .write connection message =>
    if connection = endpoint.connection then
      let (seen, link) := endpoint.link.takeLine (Line.ofHub message)
      let (endpoint, completed) := follow { endpoint with link } seen
      (endpoint, completed.toList)
    else (endpoint, [])
  | .close connection =>
    if connection = endpoint.connection then
      let (failed, link) := endpoint.link.endOfStream
      let endpoint := { endpoint with link }
      (endpoint, failed.filterMap fun seen => (follow endpoint seen).2)
    else (endpoint, [])

end Endpoint

/-- A hub behind a socket, and the frames that are linked to it. -/
structure Sockets where
  hub : Hub
  path : String
  displayName : Option String
  endpoints : List Endpoint

namespace Sockets

def endpoint? (sockets : Sockets) (frame : FrameId) : Option Endpoint :=
  sockets.endpoints.find? fun endpoint => endpoint.link.frame == frame

def setEndpoint (sockets : Sockets) (changed : Endpoint) : Sockets :=
  { sockets with
    endpoints := sockets.endpoints.map fun endpoint =>
      if endpoint.link.frame = changed.link.frame then changed else endpoint }

/-- Hands what the hub does on to the links. -/
def carry (sockets : Sockets) (outputs : List Output) : Sockets × List Completion :=
  outputs.foldl
    (fun (sockets, completed) output =>
      let taken := sockets.endpoints.map fun endpoint => endpoint.take output
      ({ sockets with endpoints := taken.map (·.1) }, completed ++ taken.flatMap (·.2)))
    (sockets, [])

def transmit (sockets : Sockets) (connection : Nat) (now : Instant) (line : String) :
    Sockets × List Completion :=
  let (hub, outputs) := sockets.hub.receive connection now line.toUTF8.toList
  { sockets with hub }.carry outputs

/-- The first line that the hub writes to a connection. -/
def firstLine? (connection : Nat) (outputs : List Output) : Option String :=
  (Output.messagesTo connection outputs).head?.map Line.ofHub

def attach (sockets : Sockets) (now : Instant) : Except TransportError FrameId × Sockets :=
  match sockets.hub.accept with
  | (none, _) => (.error (.connect sockets.path .notFound), sockets)
  | (some connection, hub) =>
    let greeting := SocketLink.greeting sockets.displayName
    let (hub, outputs) := hub.receive connection now greeting.toUTF8.toList
    let sockets := ({ sockets with hub }.carry outputs).1
    match SocketLink.greet (firstLine? connection outputs) with
    | .ok frame =>
      (.ok frame,
        { sockets with
          endpoints := sockets.endpoints ++ [⟨.attached frame, connection, []⟩] })
    | .error error =>
      let (hub, outputs) := sockets.hub.finish connection now
      (.error error, ({ sockets with hub }.carry outputs).1)

/-- Makes a call for a frame.  There is no result if the hub leaves the call without an answer. -/
def call (sockets : Sockets) (frame : FrameId) (now : Instant) (call : Call) :
    Option (Except TransportError CallResult) × Sockets :=
  match sockets.endpoint? frame with
  | none => (some (.error .disconnected), sockets)
  | some endpoint =>
    match endpoint.link.start call with
    | (_, .error error, link) => (some (.error error), sockets.setEndpoint { endpoint with link })
    | (request, .ok line, link) =>
      let sockets := sockets.setEndpoint { endpoint with link }
      let (sockets, completed) := sockets.transmit endpoint.connection now line
      ((completed.find? fun completion =>
          completion.frame == frame && completion.request == request).map (·.result),
        sockets)

def send (sockets : Sockets) (frame : FrameId) (now : Instant) (route : Route)
    (packet : Packet) : Sockets :=
  match sockets.endpoint? frame with
  | none => sockets
  | some endpoint =>
    match endpoint.link.lineOfPacket? route packet with
    | none => sockets
    | some line => (sockets.transmit endpoint.connection now line).1

def detach (sockets : Sockets) (frame : FrameId) (now : Instant) : Sockets :=
  match sockets.endpoint? frame with
  | none => sockets
  | some endpoint =>
    let (line?, link) := endpoint.link.detach
    let sockets := sockets.setEndpoint { endpoint with link }
    match line? with
    | none => sockets
    | some line => (sockets.transmit endpoint.connection now line).1

/-- Takes the packets that have come for a frame. -/
def collect (sockets : Sockets) (frame : FrameId) : List Packet × Sockets :=
  match sockets.endpoint? frame with
  | none => ([], sockets)
  | some endpoint => (endpoint.inbound, sockets.setEndpoint { endpoint with inbound := [] })

/-- Goes on with the exchange after frames of the hub's own process have used it. -/
def resume (sockets : Sockets) (exchange : Exchange) : Sockets :=
  let (hub, outputs) := { sockets.hub with exchange }.forward
  ({ sockets with hub }.carry outputs).1

def shutdown (sockets : Sockets) : Sockets :=
  let (hub, outputs) := sockets.hub.shutdown
  ({ sockets with hub }.carry outputs).1

end Sockets

end SessionBus
