import SessionBus.Command.Arguments
import SessionBus.Network
import SessionBus.Settings

/-!
# The control command

`framectl` is a frame on the command line.  It claims or joins a session and stays, prints the
packets of a topic, sends one payload, or shows the record of a session.
-/

namespace SessionBus.Command

/-- What the control command is asked to do. -/
inductive Control where
  | create (session : SessionId) (topics : List String)
  | join (session : SessionId) (name : String)
  | listen (session : SessionId) (topic name : String)
  | send (session : SessionId) (topic data name : String)
  | describe (session : SessionId)
deriving DecidableEq, Repr

namespace Control

/-- The name under which the control command is known. -/
def programName : String := "framectl"

def program : ProgramForm where
  name := programName
  summary := "framectl - command-line frame for framebus"
  needsCommand := true
  options := [{ name := "socket", allowsEmpty := false }]
  commands :=
    [{ name := "create"
       summary := "Claim ownership of a session and hold it until interrupted"
       operands := ["session"]
       options := [{ name := "topic", repeats := true }] },
     { name := "join"
       summary := "Join an owned session and stay joined until interrupted"
       operands := ["session"]
       options := [{ name := "name" }] },
     { name := "listen"
       summary := "Join a session and print every packet on a topic as a JSON line"
       operands := ["session"]
       options := [{ name := "topic", required := true }, { name := "name" }] },
     { name := "send"
       summary := "Claim or join a session, then broadcast one JSON payload"
       operands := ["session", "data"]
       options := [{ name := "topic", required := true }, { name := "name" }] },
     { name := "describe"
       summary := "Show the owner and members of a session"
       operands := ["session"]
       options := [] }]

/-- The command that a command line asks for. -/
def ofGiven? (form : CommandForm) (given : Given) : Option Control :=
  let name := (given.value? "name").getD programName
  let topic := (given.value? "topic").getD ""
  match form.name, given.operands with
  | "create", [session] => some (.create ⟨session⟩ (given.values "topic"))
  | "join", [session] => some (.join ⟨session⟩ name)
  | "listen", [session] => some (.listen ⟨session⟩ topic name)
  | "send", [session, data] => some (.send ⟨session⟩ topic data name)
  | "describe", [session] => some (.describe ⟨session⟩)
  | _, _ => none

/-- The path of the socket that a command line names, if it does, and the command. -/
def parse (words : List String) : Except Refusal (Option String × Control) := do
  let (form?, given) ← program.parse words
  match form?.bind fun form => ofGiven? form given with
  | some control => return (given.value? "socket", control)
  | none => .error .wrong

/-- Why a command fails. -/
inductive Failure where
  | connect (error : TransportError)
  | transport (error : TransportError)
  | payload (error : PayloadError)
  | alreadyOwned (session : SessionId)
  | noOwner (session : SessionId)
  | notClaimed (session : SessionId)
  | unknown (session : SessionId)
deriving DecidableEq

def Failure.message : Failure → String
  | .connect error =>
    Finish.withCause "Failed to connect to hub (is framebusd running?)" error.message
  | .transport error => error.message
  | .payload error => error.message
  | .alreadyOwned session => "Session " ++ session.key ++ " is already owned by another frame"
  | .noOwner session => "Session " ++ session.key ++ " has no owner yet"
  | .notClaimed session => "Could not claim or join session " ++ session.key
  | .unknown session => "Session " ++ session.key ++ " does not exist"

/-- What a command has come to: its end, or a state in which it stays and prints the packets of
some receivers.  A call that nobody answers lets it stay as well. -/
inductive Progress where
  | done (output : String)
  | failed (failure : Failure)
  | stays (output : String) (tickets : List Ticket)

/-- The payload that a word stands for: a JSON document, or else the word itself. -/
def payloadOf (data : String) : Json :=
  match Json.parse data with
  | .ok document => document
  | .error _ => .string data

/-- Goes on with the answer to a call. -/
def andThen {α : Type} (answer : Option (Except TransportError α) × Network)
    (next : α → Network → Progress × Network) : Progress × Network :=
  match answer with
  | (none, network) => (.stays "" [], network)
  | (some (.error error), network) => (.failed (.transport error), network)
  | (some (.ok result), network) => next result network

def openReceivers (network : Network) (frame : FrameId) : List String → List Ticket × Network
  | [] => ([], network)
  | topic :: rest =>
    let (ticket, network) := network.receiver frame topic
    let (tickets, network) := openReceivers network frame rest
    (ticket.toList ++ tickets, network)

/-- Broadcasts a payload to the session that the frame works in, and waits until the hub answers a
question that it gets after it. -/
def flush (network : Network) (frame : FrameId) (now : Instant) (session : SessionId)
    (topic data : String) : Progress × Network :=
  match network.broadcast frame now topic (.document (payloadOf data)) with
  | .error error => (.failed (.payload error), network)
  | .ok network =>
    andThen (network.describe frame now session) fun _ network => (.done "", network)

def run (network : Network) (frame : FrameId) (now : Instant) : Control → Progress × Network
  | .create session topics =>
    andThen (network.create frame now session) fun claimed network =>
      if claimed then
        let (tickets, network) := openReceivers network frame topics
        (.stays ("Created session " ++ session.key ++ " as " ++ frame.text ++ "\n") tickets,
          network)
      else (.failed (.alreadyOwned session), network)
  | .join session name =>
    andThen (network.join frame now session name) fun joined network =>
      if joined then
        (.stays ("Joined session " ++ session.key ++ " as " ++ frame.text ++ "\n") [], network)
      else (.failed (.noOwner session), network)
  | .listen session topic name =>
    let (ticket, network) := network.receiver frame topic
    andThen (network.join frame now session name) fun joined network =>
      if joined then (.stays "" ticket.toList, network)
      else (.failed (.noOwner session), network)
  | .send session topic data name =>
    andThen (network.create frame now session) fun claimed network =>
      if claimed then flush network frame now session topic data
      else
        andThen (network.join frame now session name) fun joined network =>
          if joined then flush network frame now session topic data
          else (.failed (.notClaimed session), network)
  | .describe session =>
    andThen (network.describe frame now session) fun found network =>
      match found with
      | some record => (.done (record.toJson.pretty ++ "\n"), network)
      | none => (.failed (.unknown session), network)

/-- A command that stays: its frame, what it has printed first, and the receivers whose packets it
prints. -/
structure Staying where
  frame : FrameId
  output : String
  tickets : List Ticket

/-- Connects a frame and carries out a command; a command that has come to its end disconnects. -/
def start (network : Network) (now : Instant) (control : Control) :
    Outcome Staying × Network :=
  match network.connect now with
  | (.error error, network) =>
    (.ended (.failure (Failure.connect error).message), network)
  | (.ok frame, network) =>
    match run network frame now control with
    | (.stays output tickets, network) => (.stays ⟨frame, output, tickets⟩, network)
    | (.done output, network) => (.ended (.success output), network.close frame now)
    | (.failed failure, network) =>
      (.ended (.failure failure.message), network.close frame now)

/-- The line that is printed for a packet, without its line feed. -/
def packetLine (packet : Packet) : String :=
  packet.toJson.compact

/-- The lines that a command has printed before it stays. -/
def Staying.lines (staying : Staying) : List String :=
  (staying.output.splitOn "\n").dropLast

/-- Prints the packets that wait for some receivers of a frame. -/
def printPackets (network : Network) (frame : FrameId) : List Ticket → List String × Network
  | [] => ([], network)
  | ticket :: rest =>
    let (packets, network) := network.drain frame ticket
    let (others, network) := printPackets network frame rest
    (packets.map packetLine ++ others, network)

end Control

end SessionBus.Command
