import SessionBus.Hub.Connection

/-!
# The hub

A hub serves an exchange to frames in other processes, one connection for each frame.  It answers
lines in the order in which they come, writes the packets of an inbox to the connection of its
frame, and closes connections: after a failed handshake or a farewell, at the end of the stream,
when the first line is not there in time, and when it shuts down.

Every function gives what the hub writes and closes, in order, beside the hub afterwards.

The functions run to its end what comes to a hub, and all their writes succeed.  The hub step by
step, with writes that may fail, is a `BusyHub`.  Left out is what a hub tells the log.
-/

namespace SessionBus

/-- A hub with its connections, the milliseconds since its start, and whether it shuts down. -/
structure Hub where
  maxMessageSize : Nat
  exchange : Exchange
  connections : List Connection
  nextNumber : Nat
  clock : Nat
  stopping : Bool

/-- What a hub does on a connection. -/
inductive Output where
  | write (connection : Nat) (message : HubMessage)
  | close (connection : Nat)
deriving DecidableEq

namespace Output

/-- The messages that a hub writes to a connection. -/
def messagesTo (connection : Nat) (outputs : List Output) : List HubMessage :=
  outputs.filterMap fun output =>
    match output with
    | .write number message => if number = connection then some message else none
    | .close _ => none

def closes (connection : Nat) (outputs : List Output) : Bool :=
  outputs.contains (.close connection)

end Output

namespace Hub

/-- The milliseconds that a connection has for its first line. -/
def handshakeTimeout : Nat := 10000

def start (limits : Limits) (maxMessageSize : Nat) : Hub where
  maxMessageSize := maxMessageSize
  exchange := .start limits
  connections := []
  nextNumber := 0
  clock := 0
  stopping := false

/-- Takes in a connection, unless the hub shuts down. -/
def accept (hub : Hub) : Option Nat × Hub :=
  if hub.stopping then (none, hub)
  else
    let number := hub.nextNumber
    let connection : Connection :=
      ⟨number, .start hub.maxMessageSize, .greeting (hub.clock + handshakeTimeout)⟩
    (some number,
      { hub with connections := hub.connections ++ [connection], nextNumber := number + 1 })

def connection? (hub : Hub) (number : Nat) : Option Connection :=
  hub.connections.find? fun connection => connection.number == number

/-- Changes the connection of a number; one that has ended is forgotten. -/
def setConnection (hub : Hub) (changed : Connection) : Hub :=
  { hub with
    connections :=
      match changed.stage with
      | .ended =>
        hub.connections.filter fun connection => connection.number != changed.number
      | _ =>
        hub.connections.map fun connection =>
          if connection.number = changed.number then changed else connection }

/-- The frame that a connection serves. -/
def servedFrame? (connection : Connection) : Option FrameId :=
  match connection.stage with
  | .serving frame => some frame
  | _ => none

/-- Writes the packets that wait for the frame of a connection, one after the other. -/
def forwardOne (connection : Connection) (exchange : Exchange) : Exchange × List Output :=
  match servedFrame? connection with
  | none => (exchange, [])
  | some frame =>
    let (packets, exchange) := exchange.collect frame
    (exchange, packets.map fun packet => .write connection.number (.deliver packet))

/-- Writes all packets that wait.  Every connection has a task of its own that writes its packets one
by one, and the tasks may take turns; this is the order that takes the connections one by one. -/
def forward (hub : Hub) : Hub × List Output :=
  let (exchange, outputs) := hub.connections.foldl
    (fun (exchange, outputs) connection =>
      let (exchange, more) := forwardOne connection exchange
      (exchange, outputs ++ more))
    (hub.exchange, [])
  ({ hub with exchange }, outputs)

/-- Carries out the answer on a connection, all of whose messages are written.  A hub that shuts down
serves nobody any longer. -/
def settle (hub : Hub) (connection : Connection) (answer : Answer) : Hub × List Output :=
  let written := answer.messages.map (Output.write connection.number)
  let answer :=
    match answer.stage with
    | .serving frame =>
      if hub.stopping then Connection.release answer.exchange frame else answer
    | _ => answer
  let hub := { hub with exchange := answer.exchange }.setConnection
    { connection with stage := answer.stage }
  match answer.stage with
  | .ended => (hub, written ++ [.close connection.number])
  | _ =>
    if answer.pauses then
      let (hub, delivered) := hub.forward
      (hub, written ++ delivered)
    else (hub, written)

/-- Handles what the line reader of a connection found, until the connection ends. -/
def handleAll (hub : Hub) (number : Nat) (now : Instant) (outputs : List Output) :
    List Incoming → Hub × List Output
  | [] => (hub, outputs)
  | incoming :: rest =>
    match hub.connection? number with
    | none => (hub, outputs)
    | some connection =>
      let answer :=
        Connection.handle hub.exchange hub.maxMessageSize now connection.stage incoming
      let (hub, more) := hub.settle connection answer
      handleAll hub number now (outputs ++ more) rest

def receive (hub : Hub) (number : Nat) (now : Instant) (bytes : List UInt8) :
    Hub × List Output :=
  match hub.connection? number with
  | none => (hub, [])
  | some connection =>
    let (found, reader) := connection.reader.feed bytes
    let hub := hub.setConnection { connection with reader }
    let (hub, outputs) := hub.handleAll number now [] found
    let (hub, delivered) := hub.forward
    (hub, outputs ++ delivered)

/-- Takes the end of the stream of a connection. -/
def finish (hub : Hub) (number : Nat) (now : Instant) : Hub × List Output :=
  match hub.connection? number with
  | none => (hub, [])
  | some connection =>
    let (hub, outputs) := hub.handleAll number now [] connection.reader.finish.toList
    let (hub, outputs) :=
      match hub.connection? number with
      | none => (hub, outputs)
      | some connection =>
        let (hub, more) :=
          hub.settle connection (Connection.endOfStream hub.exchange connection.stage)
        (hub, outputs ++ more)
    let (hub, delivered) := hub.forward
    (hub, outputs ++ delivered)

/-- Ends all connections that satisfy a condition. -/
def closeWhere (hub : Hub) (condition : Connection → Bool) : Hub × List Output :=
  (hub.connections.filter condition).foldl
    (fun (hub, outputs) connection =>
      let (hub, more) :=
        hub.settle connection (Connection.endOfStream hub.exchange connection.stage)
      (hub, outputs ++ more))
    (hub, [])

/-- Whether a connection has waited too long for its first line. -/
def isLate (clock : Nat) (connection : Connection) : Bool :=
  match connection.stage with
  | .greeting deadline => deadline ≤ clock
  | _ => false

def wait (hub : Hub) (milliseconds : Nat) : Hub × List Output :=
  let clock := hub.clock + milliseconds
  { hub with clock }.closeWhere (isLate clock)

/-- Stops taking connections in and ends those of frames.  A connection without a frame stays until
its first line is handled. -/
def shutdown (hub : Hub) : Hub × List Output :=
  { hub with stopping := true }.closeWhere fun connection => (servedFrame? connection).isSome

end Hub

end SessionBus
