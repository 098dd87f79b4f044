import SessionBus.Proofs.Hub.Acts
import SessionBus.Proofs.Message.Frame
import SessionBus.Proofs.Registry.Identity
import SessionBus.Transport.FrameEnd

/-!
# Frames, a hub and its switchboard as tasks between queues

A line of a frame waits for the frame's writer, crosses the socket as bytes, and is found and heard
by a task of the hub.  What it asks of the switchboard waits in one queue with everything else; the
switchboard puts packets into inboxes, and from there a forwarder writes them to the connection of
the frame, between the answers that the hub writes itself.  The bytes go back over the socket, and
the frame's reader hands the packets on.

Each of these tasks goes on at its own pace, one piece of work at a time.  A task that has asked the
switchboard and needs the answer hears nothing until the answer is there.
-/

namespace SessionBus

/-- The bytes in which a message crosses a socket. -/
def HubMessage.bytes (message : HubMessage) : List UInt8 :=
  (Line.ofHub message).toUTF8.toList

/-- The identity of the frame that a connection serves. -/
def Stage.identity? : Stage → Option FrameId
  | .serving frame => some frame
  | _ => none

/-! ## Connections -/

/-- What the task that hears a connection does: it is free for the next line, waits for the
switchboard, or has the answer and has still to write it. -/
inductive HubTask where
  | free
  | waiting
  | answered (messages : List HubMessage) (stage : Stage)

/-- A connection with all that lies between a frame and a hub: the lines that wait for the frame's
writer and whether the stream ends after them, the bytes on their way to the hub and whether no more
will follow, what the hub has found in the bytes and has not heard yet, and the bytes on their way
to the frame.

The last three fields are a record that nothing reads: the identity that the switchboard has given
out here, the packets that the frame's link has taken to be sent, and those that it has handed
on. -/
structure Strand where
  frameEnd : FrameEnd
  outgoing : List String
  parting : Bool
  up : List UInt8
  upEnded : Bool
  reader : LineReader
  found : List Incoming
  stage : Stage
  task : HubTask
  down : List UInt8
  identity : Option FrameId
  accepted : List (Route × Packet)
  handed : List Packet

namespace Strand

/-- A connection that a frame opens. -/
def start (max : Nat) (path : String) (displayName : Option String) : Strand :=
  let opened := FrameEnd.connect path displayName
  { frameEnd := opened.2
    outgoing := opened.1.filterMap FrameNotice.line?
    parting := false
    up := []
    upEnded := false
    reader := .start max
    found := []
    stage := .greeting Hub.handshakeTimeout
    task := .free
    down := []
    identity := none
    accepted := []
    handed := [] }

/-- The identity of an attached link. -/
def frame? (strand : Strand) : Option FrameId :=
  strand.frameEnd.link?.map (·.frame)

/-! ### The frame's side -/

/-- The connection after something has been done at the frame's end of it. -/
def follow (strand : Strand) (done : List FrameNotice × FrameEnd) : Strand :=
  { strand with
    frameEnd := done.2
    outgoing := strand.outgoing ++ done.1.filterMap FrameNotice.line?
    parting := strand.parting || done.1.any FrameNotice.isClosed
    handed := strand.handed ++ done.1.filterMap FrameNotice.packet? }

def call (strand : Strand) (what : Call) : Strand :=
  strand.follow (strand.frameEnd.call what).2

/-- Sends a packet.  The link takes it unless it is dropped. -/
def send (strand : Strand) (route : Route) (packet : Packet) : Strand :=
  let notices := strand.frameEnd.send route packet
  { strand.follow (notices, strand.frameEnd) with
    accepted := strand.accepted ++ if notices.isEmpty then [] else [(route, packet)] }

def detach (strand : Strand) : Strand :=
  strand.follow strand.frameEnd.detach

def release (strand : Strand) : Strand :=
  strand.follow strand.frameEnd.release

/-- The writer takes the next line, or ends the stream after the last one. -/
def write (strand : Strand) : Strand :=
  match strand.outgoing with
  | line :: rest => { strand with outgoing := rest, up := strand.up ++ line.toUTF8.toList }
  | [] => { strand with upEnded := strand.upEnded || strand.parting }

/-- The reader takes some bytes. -/
def take (strand : Strand) (count : Nat) : Strand :=
  { strand with down := strand.down.drop count }.follow
    (strand.frameEnd.feed (strand.down.take count))

/-- The reader takes the end of the stream, when the hub has closed the connection. -/
def close (strand : Strand) : Strand :=
  if strand.stage = .ended ∧ strand.down = [] then strand.follow strand.frameEnd.finish else strand

/-- Some program other than a link writes bytes, and may end the stream. -/
def inject (strand : Strand) (bytes : List UInt8) (last : Bool) : Strand :=
  { strand with up := strand.up ++ bytes, upEnded := strand.upEnded || last }

/-! ### The hub's side -/

/-- The hub reads some bytes. -/
def read (strand : Strand) (count : Nat) : Strand :=
  let (more, reader) := strand.reader.feed (strand.up.take count)
  { strand with up := strand.up.drop count, reader, found := strand.found ++ more }

/-- The hub writes some messages. -/
def tell (strand : Strand) (messages : List HubMessage) : Strand :=
  { strand with down := strand.down ++ messages.flatMap HubMessage.bytes }

/-- The hub hears what it has found first.  The task waits for the switchboard, or carries out the
answer at once. -/
def hear (strand : Strand) (rest : List Incoming) (waits : Bool) (answer : Answer) : Strand :=
  let heard := { strand with found := rest }
  if waits then { heard with task := .waiting }
  else { heard.tell answer.messages with stage := answer.stage }

section Hearing

variable (strand : Strand) (rest : List Incoming) (waits : Bool) (answer : Answer)

@[simp]
theorem identity_hear : (strand.hear rest waits answer).identity = strand.identity := by
  cases waits <;> rfl

@[simp]
theorem frameEnd_hear : (strand.hear rest waits answer).frameEnd = strand.frameEnd := by
  cases waits <;> rfl

@[simp]
theorem accepted_hear : (strand.hear rest waits answer).accepted = strand.accepted := by
  cases waits <;> rfl

@[simp]
theorem handed_hear : (strand.hear rest waits answer).handed = strand.handed := by
  cases waits <;> rfl

end Hearing

/-- The task that has waited for the switchboard writes its answer. -/
def resume (strand : Strand) : Strand :=
  match strand.task with
  | .answered messages stage => { strand.tell messages with task := .free, stage }
  | _ => strand

/-- The task that waits gets its answer. -/
def await (strand : Strand) (answer : Answer) : Strand :=
  { strand with
    task := .answered answer.messages answer.stage
    identity := answer.stage.identity?.or strand.identity }

end Strand

/-! ## The switchboard's queue -/

/-- Whether the one who gives a command waits for the answer. -/
def Command.isAwaited : Command → Bool
  | .unregister _ => false
  | .deliver _ _ => false
  | _ => true

/-- A command in the queue of the switchboard, told by what has led to it: what the hub heard on a
connection at some stage, or, if it is `none`, that the stream ended. -/
structure Commission where
  connection : Nat
  stage : Stage
  incoming : Option Incoming

namespace Commission

def command? (max : Nat) (commission : Commission) : Option Command :=
  match commission.incoming, commission.stage with
  | some incoming, stage => Connection.command? max stage incoming
  | none, .serving frame => some (.unregister frame)
  | none, _ => none

/-- What becomes of the connection when the switchboard takes the command. -/
def answer (exchange : Exchange) (max : Nat) (now : Instant) (commission : Commission) : Answer :=
  match commission.incoming with
  | some incoming => Connection.handle exchange max now commission.stage incoming
  | none => Connection.endOfStream exchange commission.stage

def isAwaited (max : Nat) (commission : Commission) : Bool :=
  (commission.command? max).any Command.isAwaited

/-- The step in which the switchboard takes the command. -/
def step? (exchange : Exchange) (max : Nat) (now : Instant) (commission : Commission) :
    Option Step :=
  exchange.board.bind fun board =>
    (commission.command? max).map fun command => ⟨board, now, command⟩

end Commission

namespace Exchange

/-- Takes the first packet out of the inbox of a frame. -/
def next (exchange : Exchange) (frame : FrameId) : Option Packet × Exchange :=
  ((exchange.inbox? frame).bind (·.packets.head?),
    { exchange with
      inboxes := exchange.inboxes.map fun inbox =>
        if inbox.frame = frame then { inbox with packets := inbox.packets.tail } else inbox })

end Exchange

/-! ## The whole -/

/-- A hub and its connections, by their numbers.  The steps that the switchboard has taken are a
record that nothing reads. -/
structure Relay where
  max : Nat
  exchange : Exchange
  queue : List Commission
  strands : Nat → Strand
  steps : List Step

namespace Relay

/-- A hub before anybody has connected.  Every frame that will ever connect has its greeting still
to write. -/
def start (limits : Limits) (max : Nat) (path : String) (displayName : Nat → Option String) :
    Relay where
  max := max
  exchange := .start limits
  queue := []
  strands := fun number => .start max path (displayName number)
  steps := []

/-- Changes one connection. -/
def set (relay : Relay) (number : Nat) (strand : Strand) : Relay :=
  { relay with
    strands := fun other => if other = number then strand else relay.strands other }

def modify (relay : Relay) (number : Nat) (change : Strand → Strand) : Relay :=
  relay.set number (change (relay.strands number))

/-- Puts a command, if there is one, at the end of the queue. -/
def commit (relay : Relay) (commission : Commission) : Relay :=
  if (commission.command? relay.max).isSome then
    { relay with queue := relay.queue ++ [commission] }
  else relay

/-- A task of the hub hears what was found next on its connection. -/
def hear (relay : Relay) (number : Nat) (now : Instant) : Relay :=
  let strand := relay.strands number
  match strand.task, strand.found with
  | .free, incoming :: rest =>
      let commission : Commission := ⟨number, strand.stage, some incoming⟩
      let heard := strand.hear rest (commission.isAwaited relay.max)
        (commission.answer relay.exchange relay.max now)
      (relay.set number heard).commit commission
  | _, _ => relay

/-- The hub gives a connection up. -/
def part (relay : Relay) (number : Nat) : Relay :=
  let strand := relay.strands number
  (relay.set number { strand with stage := .ended }).commit ⟨number, strand.stage, none⟩

/-- The hub has read the end of a stream.  An unfinished last line still counts. -/
def finish (relay : Relay) (number : Nat) : Relay :=
  let strand := relay.strands number
  match strand.task, strand.found, strand.up, strand.upEnded with
  | .free, [], [], true =>
      match strand.reader.finish with
      | some incoming =>
          relay.set number { strand with reader := strand.reader.restart, found := [incoming] }
      | none => relay.part number
  | _, _, _, _ => relay

/-- A connection fails: a timeout has passed, or the socket could not be read or written. -/
def fail (relay : Relay) (number : Nat) : Relay :=
  match (relay.strands number).task with
  | .free => relay.part number
  | _ => relay

/-- The switchboard takes the next command. -/
def handle (relay : Relay) (now : Instant) : Relay :=
  match relay.queue with
  | [] => relay
  | commission :: rest =>
      let answer := commission.answer relay.exchange relay.max now
      let strand := relay.strands commission.connection
      { relay.set commission.connection
          (if commission.isAwaited relay.max then strand.await answer else strand) with
        exchange := answer.exchange
        queue := rest
        steps := relay.steps ++ (commission.step? relay.exchange relay.max now).toList }

/-- The forwarder of a connection writes the next packet in the inbox of its frame. -/
def forward (relay : Relay) (number : Nat) : Relay :=
  let strand := relay.strands number
  match strand.stage with
  | .serving frame =>
      let (packet?, exchange) := relay.exchange.next frame
      { relay.set number (strand.tell (packet?.toList.map .deliver)) with exchange }
  | _ => relay

/-- A piece of work of one of the tasks. -/
inductive Move where
  | call (number : Nat) (what : Call)
  | send (number : Nat) (route : Route) (packet : Packet)
  | detach (number : Nat)
  | release (number : Nat)
  | write (number : Nat)
  | take (number : Nat) (count : Nat)
  | close (number : Nat)
  | inject (number : Nat) (bytes : List UInt8) (last : Bool)
  | read (number : Nat) (count : Nat)
  | hear (number : Nat) (now : Instant)
  | resume (number : Nat)
  | finish (number : Nat)
  | fail (number : Nat)
  | handle (now : Instant)
  | forward (number : Nat)

def perform (relay : Relay) : Move → Relay
  | .call number what => relay.modify number (·.call what)
  | .send number route packet => relay.modify number (·.send route packet)
  | .detach number => relay.modify number Strand.detach
  | .release number => relay.modify number Strand.release
  | .write number => relay.modify number Strand.write
  | .take number count => relay.modify number (·.take count)
  | .close number => relay.modify number Strand.close
  | .inject number bytes last => relay.modify number (·.inject bytes last)
  | .read number count => relay.modify number (·.read count)
  | .hear number now => relay.hear number now
  | .resume number => relay.modify number Strand.resume
  | .finish number => relay.finish number
  | .fail number => relay.fail number
  | .handle now => relay.handle now
  | .forward number => relay.forward number

/-! ### Runs -/

variable (relay : Relay) (sender receiver : Nat)

/-- What is left out when two links are observed: the sockets of both carry nothing else and do not
fail, the receiver does not go, and the sender sends its packets, under its own identity and with
data that the hub can read, to a receiver that is attached. -/
def Permits : Move → Prop
  | .send number _ packet =>
      number = sender →
        (relay.strands receiver).frame?.isSome = true ∧
          (relay.strands sender).frame? = some packet.sender ∧
            packet.data.document.IsPortable dataLevels
  | .detach number => number ≠ receiver
  | .release number => number ≠ receiver
  | .inject number _ _ => number ≠ sender ∧ number ≠ receiver
  | .fail number => number ≠ sender ∧ number ≠ receiver
  | _ => True

/-- A state that a hub and its connections get into. -/
inductive Reached (limits : Limits) (max : Nat) : Relay → Prop where
  | start (path : String) (displayName : Nat → Option String) :
      Reached limits max (.start limits max path displayName)
  | move {relay : Relay} (reached : Reached limits max relay) (move : Move)
      (permitted : relay.Permits sender receiver move) : Reached limits max (relay.perform move)

/-- Nothing is left in any queue between the sender and the receiver. -/
structure Drained : Prop where
  outgoing : (relay.strands sender).outgoing = []
  up : (relay.strands sender).up = []
  found : (relay.strands sender).found = []
  queue : relay.queue = []
  inbox :
    ∀ frame, (relay.strands receiver).frame? = some frame → (relay.exchange.collect frame).1 = []
  down : (relay.strands receiver).down = []

end Relay

end SessionBus
