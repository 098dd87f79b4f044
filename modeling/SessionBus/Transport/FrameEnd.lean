import SessionBus.Hub.LineReader
import SessionBus.Transport.Link

/-!
# A frame's end of a connection

The bytes that come from a hub are cut after each line feed.  The first line settles whether the
frame is taken in; the others go to its link.  Bytes that are no UTF-8 text end the reading just as
the end of the stream does, before which an unfinished last line still counts.

Every operation gives what it brings about, in order, beside the connection afterwards.

The lines of a link are written whole for as long as the hub's end of the connection is there.  That
a write of the frame fails before the stream from the hub has ended is left out: the frame would
write nothing more then, but still read.  What a frame tells the log is left out too.
-/

namespace SessionBus

/-- How far a connection has come on the frame's side. -/
inductive FrameStage where
  | greeting
  | attached (link : SocketLink)
  | refused
deriving DecidableEq, Repr

/-- The path at which the hub was reached, how far the connection has come, the bytes after the last
line feed in reverse, and whether the link has been released. -/
structure FrameEnd where
  path : String
  stage : FrameStage
  pending : List UInt8
  released : Bool
deriving DecidableEq, Repr

/-- What happens at a frame's end of a connection: it sends a line, is taken in or not, gets a
packet, ends a call, or ends its side of the stream. -/
inductive FrameNotice where
  | sent (line : String)
  | greeted (result : Except TransportError FrameId)
  | packet (content : Packet)
  | completed (request : UInt64) (result : Except TransportError CallResult)
  | closed

namespace FrameNotice

/-- What an output of a link is to others. -/
def ofOutput? : LinkOutput → Option FrameNotice
  | .packet content => some (.packet content)
  | .completed request result => some (.completed request result)
  | .nothing => none

def line? : FrameNotice → Option String
  | .sent line => some line
  | _ => none

def greeting? : FrameNotice → Option (Except TransportError FrameId)
  | .greeted result => some result
  | _ => none

def packet? : FrameNotice → Option Packet
  | .packet content => some content
  | _ => none

def completion? : FrameNotice → Option (UInt64 × Except TransportError CallResult)
  | .completed request result => some (request, result)
  | _ => none

/-- Whether the frame ends its side of the stream. -/
def isClosed : FrameNotice → Bool
  | .closed => true
  | _ => false

end FrameNotice

namespace FrameEnd

/-- Opens a connection to a hub with a greeting. -/
def connect (path : String) (displayName : Option String) : List FrameNotice × FrameEnd :=
  ([.sent (SocketLink.greeting displayName)], ⟨path, .greeting, [], false⟩)

def link? (frameEnd : FrameEnd) : Option SocketLink :=
  match frameEnd.stage with
  | .attached link => some link
  | _ => none

/-- The link that the user of the frame holds. -/
def heldLink? (frameEnd : FrameEnd) : Option SocketLink :=
  if frameEnd.released then none else frameEnd.link?

def withLink (frameEnd : FrameEnd) (link : SocketLink) : FrameEnd :=
  { frameEnd with stage := .attached link }

/-- Says farewell, if that has not happened yet. -/
def detach (frameEnd : FrameEnd) : List FrameNotice × FrameEnd :=
  match frameEnd.link? with
  | none => ([], frameEnd)
  | some link =>
    if link.writing then
      let (line?, link) := link.detach
      (line?.toList.map .sent ++ [.closed], frameEnd.withLink link)
    else ([], frameEnd)

/-- A released link says farewell as soon as no call needs it. -/
def letGo (frameEnd : FrameEnd) : List FrameNotice × FrameEnd :=
  match frameEnd.link? with
  | none => ([], frameEnd)
  | some link =>
    if frameEnd.released && link.waiting.isEmpty then frameEnd.detach else ([], frameEnd)

def release (frameEnd : FrameEnd) : List FrameNotice × FrameEnd :=
  { frameEnd with released := true }.letGo

/-- Starts a call on the link that is held: the number of the request. -/
def call (frameEnd : FrameEnd) (what : Call) : Option UInt64 × List FrameNotice × FrameEnd :=
  match frameEnd.heldLink? with
  | none => (none, [], frameEnd)
  | some link =>
    match link.start what with
    | (request, .ok line, link) => (some request, [.sent line], frameEnd.withLink link)
    | (request, .error error, link) =>
      (some request, [.completed request (.error error)], frameEnd.withLink link)

def send (frameEnd : FrameEnd) (route : Route) (packet : Packet) : List FrameNotice :=
  ((frameEnd.heldLink?.bind (·.lineOfPacket? route packet)).map .sent).toList

/-- Takes the answer to the greeting. -/
def settle (frameEnd : FrameEnd) (result : Except TransportError FrameId) :
    List FrameNotice × FrameEnd :=
  match result with
  | .ok frame => ([.greeted (.ok frame)], frameEnd.withLink (.attached frame))
  | .error error => ([.greeted (.error error), .closed], { frameEnd with stage := .refused })

def endOfStream (frameEnd : FrameEnd) : List FrameNotice × FrameEnd :=
  match frameEnd.stage with
  | .greeting => frameEnd.settle (SocketLink.greet none)
  | .attached link =>
    let (failed, link) := link.endOfStream
    (failed.filterMap FrameNotice.ofOutput?, frameEnd.withLink link)
  | .refused => ([], frameEnd)

/-- Takes a line with its line feed, or without it at the end of the stream. -/
def takeLine (frameEnd : FrameEnd) (bytes : List UInt8) : List FrameNotice × FrameEnd :=
  match frameEnd.stage, String.fromUTF8? bytes.toByteArray with
  | .greeting, some line => frameEnd.settle (SocketLink.greet (some line))
  | .greeting, none => frameEnd.settle (.error (.connect frameEnd.path .notText))
  | .attached link, some line =>
    let (output, link) := link.takeLine line
    ((FrameNotice.ofOutput? output).toList, frameEnd.withLink link)
  | .attached _, none => frameEnd.endOfStream
  | .refused, _ => ([], frameEnd)

/-- Takes bytes, with what they have brought about so far in reverse. -/
def takeBytes (frameEnd : FrameEnd) (notices : List FrameNotice) :
    List UInt8 → List FrameNotice × FrameEnd
  | [] => (notices.reverse, frameEnd)
  | byte :: rest =>
    let pending := byte :: frameEnd.pending
    if byte = LineReader.lineFeed then
      let (more, frameEnd) := { frameEnd with pending := [] }.takeLine pending.reverse
      takeBytes frameEnd (more.reverse ++ notices) rest
    else takeBytes { frameEnd with pending } notices rest

def feed (frameEnd : FrameEnd) (bytes : List UInt8) : List FrameNotice × FrameEnd :=
  let (notices, frameEnd) := frameEnd.takeBytes [] bytes
  let (farewell, frameEnd) := frameEnd.letGo
  (notices ++ farewell, frameEnd)

/-- Takes the last bytes of the stream and its end. -/
def finish (frameEnd : FrameEnd) : List FrameNotice × FrameEnd :=
  let (last, frameEnd) :=
    if frameEnd.pending.isEmpty then ([], frameEnd)
    else { frameEnd with pending := [] }.takeLine frameEnd.pending.reverse
  let (failed, frameEnd) := frameEnd.endOfStream
  let (farewell, frameEnd) := frameEnd.letGo
  (last ++ failed ++ farewell, frameEnd)

end FrameEnd

end SessionBus
