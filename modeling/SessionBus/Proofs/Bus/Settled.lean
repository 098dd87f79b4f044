import SessionBus.Proofs.Bus.Action
import SessionBus.Proofs.Registry.Timeless

/-!
# A bus at rest

Between two actions no packet is on its way, so all that matters of a bus is its switchboard and its
connectors, whatever lies between them.  `Bus` is just that: its switchboard keeps no times, and a
packet is passed to all connectors at once, each of which takes it only if it is meant for its
frame.
-/

namespace SessionBus

/-- A switchboard and the connectors of its frames, the closed ones included. -/
structure Bus where
  board : Switchboard
  connectors : List Connector

namespace Bus

def start (limits : Limits) : Bus :=
  ⟨.empty limits, []⟩

def connector? (bus : Bus) (frame : FrameId) : Option Connector :=
  bus.connectors.find? fun connector => connector.frame == frame

def isOpen (bus : Bus) (frame : FrameId) : Bool :=
  (bus.connector? frame).any fun connector => !connector.isClosed

def modify (bus : Bus) (frame : FrameId) (change : Connector → Connector) : Bus :=
  { bus with
    connectors := bus.connectors.map fun connector =>
      if connector.frame = frame then change connector else connector }

@[simp] theorem length_modify (bus : Bus) (frame : FrameId) (change : Connector → Connector) :
    (bus.modify frame change).connectors.length = bus.connectors.length :=
  List.length_map _

def spread (bus : Bus) (packet : Packet) : Bus :=
  { bus with connectors := bus.connectors.map (·.dispatch packet) }

@[simp] theorem length_spread (bus : Bus) (packet : Packet) :
    (bus.spread packet).connectors.length = bus.connectors.length :=
  List.length_map _

def ifOpen (bus : Bus) (frame : FrameId) (act : Outcome SwitchboardError × Bus) :
    Outcome SwitchboardError × Bus :=
  if bus.isOpen frame then act else (.noConnector, bus)

def connect (bus : Bus) : Outcome SwitchboardError × Bus :=
  let turn := bus.board.register
  match turn.reply with
  | .error error => (.connected (.error error), { bus with board := turn.board })
  | .ok frame =>
      (.connected (.ok frame), ⟨turn.board, bus.connectors ++ [.attached frame]⟩)

def create (bus : Bus) (frame : FrameId) (session : SessionId) :
    Outcome SwitchboardError × Bus :=
  let turn := bus.board.claim frame session .epoch
  match turn.reply with
  | .error error => (.decided (.error error), { bus with board := turn.board })
  | .ok claimed =>
      (.decided (.ok claimed),
        { bus with board := turn.board }.modify frame (·.afterClaim session claimed))

def join (bus : Bus) (frame : FrameId) (session : SessionId) (displayName : String) :
    Outcome SwitchboardError × Bus :=
  let turn := bus.board.join frame session displayName .epoch
  (.decided (.ok turn.reply),
    { bus with board := turn.board }.modify frame (·.afterJoin session turn.reply))

/-- Sends the broadcast of a connector, if it works in a session. -/
def broadcast (bus : Bus) (frame : FrameId) (topic : String) (data : Json.Value) : Bus :=
  ((bus.connector? frame).bind (·.broadcast? topic data)).elim bus bus.spread

/-- Opens a receiver of a frame for a topic. -/
def receiver (bus : Bus) (frame : FrameId) (topic : String) : Outcome SwitchboardError × Bus :=
  match bus.connector? frame with
  | none => (.noConnector, bus)
  | some connector =>
      (.opened (connector.receiver topic).1,
        bus.modify frame fun _ => (connector.receiver topic).2)

/-- Takes the first packet that waits for a receiver of a frame. -/
def receive (bus : Bus) (frame : FrameId) (ticket : Ticket) : Outcome SwitchboardError × Bus :=
  match bus.connector? frame with
  | none => (.yielded [], bus)
  | some connector =>
      (.yielded (connector.topics.receive ticket).1.toList,
        bus.modify frame fun _ =>
          { connector with topics := (connector.topics.receive ticket).2 })

/-- Takes all packets that wait for a receiver of a frame. -/
def drain (bus : Bus) (frame : FrameId) (ticket : Ticket) : Outcome SwitchboardError × Bus :=
  match bus.connector? frame with
  | none => (.yielded [], bus)
  | some connector =>
      (.yielded (connector.topics.drain ticket).1,
        bus.modify frame fun _ =>
          { connector with topics := (connector.topics.drain ticket).2 })

def dropReceiver (bus : Bus) (frame : FrameId) (ticket : Ticket) : Bus :=
  bus.modify frame fun connector =>
    { connector with topics := connector.topics.drop ticket }

/-- Closes the connector of a frame and lets the frame go. -/
def close (bus : Bus) (frame : FrameId) : Bus :=
  { bus.modify frame Connector.close with board := (bus.board.unregister frame).board }

theorem ifOpen_cases
    {motive : Outcome SwitchboardError × Bus → Prop} {bus : Bus} {frame : FrameId}
    {act : Outcome SwitchboardError × Bus} (opened : bus.isOpen frame = true → motive act)
    (otherwise : motive (.noConnector, bus)) : motive (bus.ifOpen frame act) := by
  unfold ifOpen
  split
  · rename_i isOpen
    exact opened isOpen
  · exact otherwise

def perform (bus : Bus) : Action → Outcome SwitchboardError × Bus
  | .connect _ => bus.connect
  | .create frame session => bus.ifOpen frame (bus.create frame session)
  | .join frame session displayName => bus.ifOpen frame (bus.join frame session displayName)
  | .describe frame session =>
      bus.ifOpen frame (.described (.ok (bus.board.table.describe session)), bus)
  | .broadcast frame topic payload =>
      bus.ifOpen frame <|
        match payload.encode topic with
        | .ok data => (.sent (.ok ()), bus.broadcast frame topic data)
        | .error error => (.sent (.error error), bus)
  | .unicast frame topic payload destination =>
      bus.ifOpen frame <|
        match payload.encode topic with
        | .ok data => (.sent (.ok ()), bus.spread (.toFrame topic data frame destination))
        | .error error => (.sent (.error error), bus)
  | .receiver frame topic => bus.ifOpen frame (bus.receiver frame topic)
  | .receive frame ticket => bus.receive frame ticket
  | .drain frame ticket => bus.drain frame ticket
  | .dropReceiver frame ticket => (.done, bus.dropReceiver frame ticket)
  | .close frame => bus.ifOpen frame (.done, bus.close frame)

/-- The actions of a run with their outcomes. -/
def log (bus : Bus) : List Action → List (Action × Outcome SwitchboardError)
  | [] => []
  | action :: rest => (action, (bus.perform action).1) :: (bus.perform action).2.log rest

/-- The bus after a run. -/
def afterActions (bus : Bus) : List Action → Bus
  | [] => bus
  | action :: rest => (bus.perform action).2.afterActions rest

end Bus

end SessionBus
