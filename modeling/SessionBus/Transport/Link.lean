import SessionBus.Transport.Error

/-!
# Links over a socket

A link is a frame's end of a connection to a hub.  It numbers the requests, and completes each of
them with the first message that carries its number; packets are passed on as they come.  A line
that cannot be read is skipped.  When the stream from the hub ends, all requests that still wait
fail, and later ones fail at once.
-/

namespace SessionBus

/-- What a frame can ask about sessions. -/
inductive Call where
  | claim (session : SessionId)
  | join (session : SessionId) (displayName : String)
  | describe (session : SessionId)
deriving DecidableEq, Repr

/-- The result of a call. -/
inductive CallResult where
  | claimed (result : Bool)
  | joined (result : Bool)
  | described (session : Option Session)
deriving DecidableEq, Repr

namespace Call

def request (id : UInt64) : Call → Request
  | .claim session => .claimSession id session
  | .join session displayName => .joinSession id session displayName
  | .describe session => .describeSession id session

/-- What a message means as the answer to a call. -/
def resultOf (call : Call) (message : HubMessage) : Except TransportError CallResult :=
  match call, message with
  | _, .error text _ code => .error (.remote text code)
  | .claim _, .sessionClaimed _ claimed => .ok (.claimed claimed)
  | .join _ _, .sessionJoined _ joined => .ok (.joined joined)
  | .describe _, .sessionDescribed _ session => .ok (.described session)
  | _, message => .error (.protocol (.unexpectedReply message))

end Call

/-- A frame's end of a connection: the number of the next request, the requests without an answer,
and whether it still reads and writes. -/
structure SocketLink where
  frame : FrameId
  nextRequest : UInt64
  waiting : List (UInt64 × Call)
  reading : Bool
  writing : Bool
deriving DecidableEq, Repr

/-- What a line from the hub brings about at a link. -/
inductive LinkOutput where
  | packet (packet : Packet)
  | completed (request : UInt64) (result : Except TransportError CallResult)
  | nothing

namespace SocketLink

/-- The link of a frame that has just been taken in. -/
def attached (frame : FrameId) : SocketLink where
  frame := frame
  nextRequest := 1
  waiting := []
  reading := true
  writing := true

/-- The line with which a connection begins. -/
def greeting (displayName : Option String) : String :=
  Line.ofFrame (.ofRequest (.connect displayName))

/-- The identity that the hub's first line gives, `none` standing for the end of the stream. -/
def greet (reply : Option String) : Except TransportError FrameId :=
  match reply with
  | none => .error .disconnected
  | some line =>
    match Line.parseHub line with
    | .error error => .error (.protocol (.unreadable error))
    | .ok (.connected version frame) =>
      if Version.current.isCompatible version then .ok frame
      else .error (.versionMismatch .current version)
    | .ok (.rejected reason _) => .error (.rejected reason)
    | .ok (.error message _ code) => .error (.remote message code)
    | .ok message => .error (.protocol (.unexpectedGreeting message))

/-- The line of a request, if the link can send it.  The limit leaves the line feed out. -/
def lineFor (link : SocketLink) (request : Request) : Except TransportError String :=
  let text := (FrameMessage.ofRequest request).toJson.compact
  if Line.maxSize < text.utf8ByteSize then
    .error (.protocol (.tooLarge (text.utf8ByteSize + 1)))
  else if link.writing then .ok (text.push '\n')
  else .error .disconnected

/-- Starts a call: the number of its request, and its line or the reason why it fails at once. -/
def start (link : SocketLink) (call : Call) :
    UInt64 × Except TransportError String × SocketLink :=
  let id := link.nextRequest
  let link := { link with nextRequest := id + 1 }
  if link.reading then
    match link.lineFor (call.request id) with
    | .error error => (id, .error error, link)
    | .ok line =>
      (id, .ok line,
        { link with waiting := link.waiting.filter (fun entry => entry.1 != id) ++ [(id, call)] })
  else (id, .error .disconnected, link)

/-- The line of a packet, unless it is dropped. -/
def lineOfPacket? (link : SocketLink) (route : Route) (packet : Packet) : Option String :=
  (link.lineFor (.send route packet)).toOption

/-- Says farewell, after which nothing is written any more. -/
def detach (link : SocketLink) : Option String × SocketLink :=
  ((link.lineFor .disconnect).toOption, { link with writing := false })

def take (link : SocketLink) (message : HubMessage) : LinkOutput × SocketLink :=
  match message with
  | .deliver packet => (.packet packet, link)
  | message =>
    match message.request?.bind fun id => (link.waiting.lookup id).map fun call => (id, call) with
    | none => (.nothing, link)
    | some (id, call) =>
      (.completed id (call.resultOf message),
        { link with waiting := link.waiting.filter fun entry => entry.1 != id })

def takeLine (link : SocketLink) (line : String) : LinkOutput × SocketLink :=
  if link.reading then
    match Line.parseHub line with
    | .ok message => link.take message
    | .error _ => (.nothing, link)
  else (.nothing, link)

/-- Takes the end of the stream from the hub. -/
def endOfStream (link : SocketLink) : List LinkOutput × SocketLink :=
  (link.waiting.map fun (id, _) => .completed id (.error .disconnected),
    { link with waiting := [], reading := false })

end SocketLink

end SessionBus
