import SessionBus.Network

/-!
# Actions on a bus

An application uses the connectors of a bus one action after the other.  An action of a frame that
has no connector, or of one whose connector has been closed, does nothing; the receivers of a closed
connector can still be read and dropped.  The log of a run keeps every action with its outcome.
-/

namespace SessionBus

/-- What an application does on a bus.  A frame that connects may give a name for display. -/
inductive Action where
  | connect (displayName : Option String)
  | create (frame : FrameId) (session : SessionId)
  | join (frame : FrameId) (session : SessionId) (displayName : String)
  | describe (frame : FrameId) (session : SessionId)
  | broadcast (frame : FrameId) (topic : String) (payload : Payload)
  | unicast (frame : FrameId) (topic : String) (payload : Payload) (destination : FrameId)
  | receiver (frame : FrameId) (topic : String)
  | receive (frame : FrameId) (ticket : Ticket)
  | drain (frame : FrameId) (ticket : Ticket)
  | dropReceiver (frame : FrameId) (ticket : Ticket)
  | close (frame : FrameId)

/-- What an action comes to, where requests fail with errors of type `ε`. -/
inductive Outcome (ε : Type) where
  | connected (result : Except ε FrameId)
  | decided (result : Except ε Bool)
  | described (result : Except ε (Option Session))
  | sent (result : Except PayloadError Unit)
  | opened (ticket : Ticket)
  | yielded (packets : List Packet)
  | done
  | unanswered
  | noConnector

namespace Transport

/-- The transport through which the next frame gives the name for display. -/
def withName (displayName : Option String) : Transport → Transport
  | .direct exchange => .direct exchange
  | .linked sockets => .linked { sockets with displayName }

end Transport

namespace Network

/-- Whether a frame has a connector that is not closed. -/
def isOpen (network : Network) (frame : FrameId) : Bool :=
  (network.connector? frame).any fun connector => !connector.isClosed

/-- Takes the first packet that waits for a receiver of a frame. -/
def receive (network : Network) (frame : FrameId) (ticket : Ticket) : Option Packet × Network :=
  match network.connector? frame with
  | none => (none, network)
  | some connector =>
      let (packet, topics) := connector.topics.receive ticket
      (packet, network.modify frame fun _ => { connector with topics })

/-- Does what a frame asks for if its connector is open. -/
def ifOpen (network : Network) (frame : FrameId) (act : Outcome TransportError × Network) :
    Outcome TransportError × Network :=
  if network.isOpen frame then act else (.noConnector, network)

theorem ifOpen_cases
    {motive : Outcome TransportError × Network → Prop} {network : Network} {frame : FrameId}
    {act : Outcome TransportError × Network}
    (opened : network.isOpen frame = true → motive act)
    (otherwise : motive (.noConnector, network)) : motive (network.ifOpen frame act) := by
  unfold ifOpen
  split
  · rename_i isOpen
    exact opened isOpen
  · exact otherwise

def perform (network : Network) (now : Instant) : Action → Outcome TransportError × Network
  | .connect displayName =>
      let named := { network with transport := network.transport.withName displayName }
      let (result, network) := named.connect now
      (.connected result, network)
  | .create frame session =>
      network.ifOpen frame <|
        let (result, network) := network.create frame now session
        (result.elim .unanswered .decided, network)
  | .join frame session displayName =>
      network.ifOpen frame <|
        let (result, network) := network.join frame now session displayName
        (result.elim .unanswered .decided, network)
  | .describe frame session =>
      network.ifOpen frame <|
        let (result, network) := network.describe frame now session
        (result.elim .unanswered .described, network)
  | .broadcast frame topic payload =>
      network.ifOpen frame <|
        match network.broadcast frame now topic payload with
        | .ok network => (.sent (.ok ()), network)
        | .error error => (.sent (.error error), network)
  | .unicast frame topic payload destination =>
      network.ifOpen frame <|
        match network.unicast frame now topic payload destination with
        | .ok network => (.sent (.ok ()), network)
        | .error error => (.sent (.error error), network)
  | .receiver frame topic =>
      network.ifOpen frame <|
        let (ticket, network) := network.receiver frame topic
        (ticket.elim .noConnector .opened, network)
  | .receive frame ticket =>
      let (packet, network) := network.receive frame ticket
      (.yielded packet.toList, network)
  | .drain frame ticket =>
      let (packets, network) := network.drain frame ticket
      (.yielded packets, network)
  | .dropReceiver frame ticket => (.done, network.dropReceiver frame ticket)
  | .close frame => network.ifOpen frame (.done, network.close frame now)

/-- The actions of a run with their outcomes. -/
def log (network : Network) : List (Instant × Action) → List (Action × Outcome TransportError)
  | [] => []
  | (now, action) :: rest =>
      (action, (network.perform now action).1) :: (network.perform now action).2.log rest

/-- The bus after a run. -/
def afterActions (network : Network) : List (Instant × Action) → Network
  | [] => network
  | (now, action) :: rest => (network.perform now action).2.afterActions rest

theorem log_append (network : Network) (before after : List (Instant × Action)) :
    network.log (before ++ after) =
      network.log before ++ (network.afterActions before).log after := by
  induction before generalizing network with
  | nil =>
      rfl
  | cons timed rest ih =>
      simp [log, afterActions, ih]

theorem afterActions_append (network : Network) (before after : List (Instant × Action)) :
    network.afterActions (before ++ after) =
      (network.afterActions before).afterActions after := by
  induction before generalizing network with
  | nil =>
      rfl
  | cons timed rest ih =>
      simp [afterActions, ih]

end Network

end SessionBus
