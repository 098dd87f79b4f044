import SessionBus.Hub.LineReader
import SessionBus.Message.Line
import SessionBus.Registry.Exchange

/-!
# Connections

A connection starts with a handshake: its first line asks to connect, in a version that the hub
understands, and the hub answers with the identity of the frame.  Any other beginning ends the
connection.  After that every line is answered by exactly one message, but a packet by none, until
the frame disconnects, the stream ends, or it is no text.

The functions say what one line brings about: the messages that go back in order, what becomes of
the connection, and the exchange afterwards.  That is so as far as the messages can be written;
`Answer.unwritten` says what is left of an answer if they cannot.  What a connection tells the log
is left out.
-/

namespace SessionBus

/-- Where a connection stands. -/
inductive Stage where
  | greeting (deadline : Nat)
  | serving (frame : FrameId)
  | ended
deriving DecidableEq, Repr

/-- A connection with the number that the hub gave it. -/
structure Connection where
  number : Nat
  reader : LineReader
  stage : Stage
deriving DecidableEq, Repr

/-- What a line brings about.  A connection pauses where it waits for the switchboard; the packets
that have come for its frame go out then. -/
structure Answer where
  messages : List HubMessage
  stage : Stage
  exchange : Exchange
  pauses : Bool := false

namespace Connection

/-- What a frame is told about a line that is too long. -/
def tooLong (max : Nat) : HubMessage :=
  .error ("Message too large (max: " ++ decimal max ++ " bytes)") none (some "message_too_large")

/-- Ends a connection without a word. -/
def hangUp (exchange : Exchange) : Answer :=
  { messages := [], stage := .ended, exchange }

/-- Ends a connection with a last message. -/
def refuse (message : HubMessage) (exchange : Exchange) : Answer :=
  { messages := [message], stage := .ended, exchange }

/-- The answer to the first message.  If the identity cannot be written, the frame is taken out again:
see `Answer.unwritten`. -/
def greet (exchange : Exchange) (message : FrameMessage) : Answer :=
  match message.version.requireCompatible with
  | .error error => refuse (.reject error.message) exchange
  | .ok () =>
    match message.request with
    | .connect _ =>
      match exchange.register with
      | (.error error, exchange) => refuse (.reject error.message) exchange
      | (.ok frame, exchange) => { messages := [.accept frame], stage := .serving frame, exchange }
    | _ => refuse (.complaint "Expected connect message for handshake") exchange

/-- The answer to a request that the switchboard refused. -/
def refusal (request : UInt64) (error : SwitchboardError) : HubMessage :=
  .requestError request error.message error.code

def release (exchange : Exchange) (frame : FrameId) : Answer :=
  hangUp (exchange.unregister frame)

/-- Goes on with some messages. -/
def goOn (exchange : Exchange) (frame : FrameId) (messages : List HubMessage) : Answer :=
  { messages, stage := .serving frame, exchange }

/-- Goes on with the message that the switchboard was waited for. -/
def goOnAfterPause (exchange : Exchange) (frame : FrameId) (message : HubMessage) : Answer :=
  { messages := [message], stage := .serving frame, exchange, pauses := true }

/-- The answer to a request of a frame.  A packet goes out under the frame's own identity. -/
def serve (exchange : Exchange) (frame : FrameId) (now : Instant) : Request → Answer
  | .connect _ => goOn exchange frame [.complaint "Already connected"]
  | .claimSession request session =>
    let (result, exchange) := exchange.claim frame session now
    let reply :=
      match result with
      | .ok claimed => .sessionClaimed request claimed
      | .error error => refusal request error
    goOnAfterPause exchange frame reply
  | .joinSession request session displayName =>
    let (result, exchange) := exchange.join frame session displayName now
    let reply :=
      match result with
      | .ok joined => .sessionJoined request joined
      | .error error => refusal request error
    goOnAfterPause exchange frame reply
  | .describeSession request session =>
    goOnAfterPause exchange frame (.sessionDescribed request (exchange.describe session))
  | .send route packet =>
    goOn (exchange.deliver route { packet with sender := frame }) frame []
  | .ping seq => goOn exchange frame [.pong seq]
  | .disconnect => release exchange frame

/-- The answer to what the line reader found, if lines have at most `max` bytes. -/
def handle (exchange : Exchange) (max : Nat) (now : Instant) (stage : Stage)
    (incoming : Incoming) : Answer :=
  match stage with
  | .ended => { messages := [], stage := .ended, exchange }
  | .greeting _ =>
    match incoming with
    | .line text =>
      match Line.parseFrame text max with
      | .ok message => greet exchange message
      | .error _ => hangUp exchange
    | .tooLong => hangUp exchange
    | .notText => hangUp exchange
  | .serving frame =>
    match incoming with
    | .line text =>
      match Line.parseFrame text max with
      | .ok message => serve exchange frame now message.request
      | .error (.tooLarge _ max) => goOn exchange frame [tooLong max]
      | .error error => goOn exchange frame [.complaint error.message]
    | .tooLong => goOn exchange frame [tooLong max]
    | .notText => release exchange frame

/-- The end of a connection whose stream has ended. -/
def endOfStream (exchange : Exchange) : Stage → Answer
  | .serving frame => release exchange frame
  | _ => hangUp exchange

end Connection

/-- What is left of an answer to what was found on a connection at some stage, if its message cannot
be written, because the connection is broken or because nothing is taken from it in time.  A
handshake has failed, and a frame that it has taken in is taken out again.  What a frame has asked
for stays as it was decided; its connection ends with the next step. -/
def Answer.unwritten (answer : Answer) : Stage → Answer
  | .serving _ => { answer with messages := [], pauses := false }
  | _ => Connection.endOfStream answer.exchange answer.stage

end SessionBus
