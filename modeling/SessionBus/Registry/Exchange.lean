import SessionBus.Registry.Feed

/-!
# A switchboard in service

An exchange is a switchboard together with what its users hold: an inbox for each registered frame
and feeds for observers.  After the switchboard has stopped, requests find it closed and inboxes
end, but what already lies in them can still be read.
-/

namespace SessionBus

/-- The packets that wait for a frame.  A closed inbox gets no more. -/
structure Inbox where
  frame : FrameId
  packets : List Packet
  closed : Bool
deriving DecidableEq

/-- The feed of an observer, under the name that the observer chose. -/
structure Observer where
  name : String
  feed : Feed
  closed : Bool
deriving DecidableEq

def Observer.tell (observer : Observer) (event : Event) : Observer :=
  { observer with feed := observer.feed.push event }

/-- A switchboard, unless it has stopped, with its inboxes and observers. -/
structure Exchange where
  board : Option Switchboard
  inboxes : List Inbox
  observers : List Observer

namespace Exchange

def start (limits : Limits) : Exchange where
  board := some (.empty limits)
  inboxes := []
  observers := []

/-- Puts a packet into the inbox of a frame, if it has one that is open. -/
def push (inboxes : List Inbox) (frame : FrameId) (packet : Packet) : List Inbox :=
  inboxes.map fun inbox =>
    if inbox.frame = frame ∧ inbox.closed = false then
      { inbox with packets := inbox.packets ++ [packet] }
    else inbox

/-- Opens an inbox for a frame that comes and closes that of a frame that goes. -/
def follow (inboxes : List Inbox) : Event → List Inbox
  | .registered frame =>
    inboxes.filter (fun inbox => inbox.frame != frame) ++ [⟨frame, [], false⟩]
  | .unregistered frame =>
    inboxes.map fun inbox => if inbox.frame = frame then { inbox with closed := true } else inbox
  | _ => inboxes

/-- The exchange after a turn of its switchboard. -/
def settle {α : Type} (exchange : Exchange) (turn : Turn α) : Exchange where
  board := some turn.board
  inboxes :=
    turn.deliveries.foldl (fun inboxes (frame, packet) => push inboxes frame packet)
      (turn.events.foldl follow exchange.inboxes)
  observers :=
    turn.events.foldl (fun observers event => observers.map (·.tell event))
      exchange.observers

/-- Asks the switchboard; `closed` is the answer if it has stopped. -/
def request {α : Type} (exchange : Exchange) (closed : α) (ask : Switchboard → Turn α) :
    α × Exchange :=
  match exchange.board with
  | none => (closed, exchange)
  | some board =>
    let turn := ask board
    (turn.reply, exchange.settle turn)

def register (exchange : Exchange) : Except SwitchboardError FrameId × Exchange :=
  exchange.request (.error .closed) (·.register)

def unregister (exchange : Exchange) (frame : FrameId) : Exchange :=
  (exchange.request () (·.unregister frame)).2

/-- A frame's claim to own a session. -/
def claim (exchange : Exchange) (frame : FrameId) (session : SessionId) (now : Instant) :
    Except SwitchboardError Bool × Exchange :=
  exchange.request (.error .closed) (·.claim frame session now)

/-- A frame's wish to join a session. -/
def join (exchange : Exchange) (frame : FrameId) (session : SessionId) (displayName : String)
    (now : Instant) : Except SwitchboardError Bool × Exchange :=
  exchange.request (.error .closed) fun board =>
    (board.join frame session displayName now).map .ok

/-- Hands a packet over for delivery. -/
def deliver (exchange : Exchange) (route : Route) (packet : Packet) : Exchange :=
  (exchange.request () (·.deliver route packet)).2

def describe (exchange : Exchange) (session : SessionId) : Option Session :=
  exchange.board.bind (·.table.describe session)

/-- All sessions in the order of their keys. -/
def sessions (exchange : Exchange) : List Session :=
  (exchange.board.map (·.table.sessions)).getD []

def frameCount (exchange : Exchange) : Nat :=
  (exchange.board.map (·.frames.size)).getD 0

def isRunning (exchange : Exchange) : Bool :=
  exchange.board.isSome

def inbox? (exchange : Exchange) (frame : FrameId) : Option Inbox :=
  exchange.inboxes.find? fun inbox => inbox.frame == frame

/-- Takes all packets out of the inbox of a frame. -/
def collect (exchange : Exchange) (frame : FrameId) : List Packet × Exchange :=
  (((exchange.inbox? frame).map (·.packets)).getD [],
    { exchange with
      inboxes := exchange.inboxes.map fun inbox =>
        if inbox.frame = frame then { inbox with packets := [] } else inbox })

/-- Takes the next packet out of the inbox of a frame. -/
def takeNext? (exchange : Exchange) (frame : FrameId) : Option (Packet × Exchange) :=
  match ((exchange.inbox? frame).map (·.packets)).getD [] with
  | [] => none
  | packet :: rest =>
    some (packet,
      { exchange with
        inboxes := exchange.inboxes.map fun inbox =>
          if inbox.frame = frame then { inbox with packets := rest } else inbox })

/-- Throws the inbox of a frame away; the frame stays registered. -/
def discard (exchange : Exchange) (frame : FrameId) : Exchange :=
  { exchange with inboxes := exchange.inboxes.filter fun inbox => inbox.frame != frame }

/-- Starts to observe, instead of any observer of that name. -/
def observe (exchange : Exchange) (name : String) : Exchange :=
  { exchange with
    observers := exchange.observers.filter (fun observer => observer.name != name) ++
      [⟨name, .empty, false⟩] }

def observer? (exchange : Exchange) (name : String) : Option Observer :=
  exchange.observers.find? fun observer => observer.name == name

/-- Takes all notices out of the feed of an observer. -/
def notices (exchange : Exchange) (name : String) : List Notice × Exchange :=
  (((exchange.observer? name).map (·.feed.notices)).getD [],
    { exchange with
      observers := exchange.observers.map fun observer =>
        if observer.name = name then { observer with feed := .empty } else observer })

/-- Stops the switchboard and closes all inboxes. -/
def stop (exchange : Exchange) : Exchange :=
  { exchange with
    board := none
    inboxes := exchange.inboxes.map fun inbox => { inbox with closed := true } }

/-- Stops the switchboard and ends the feeds too, since nobody is left who could use it. -/
def abandon (exchange : Exchange) : Exchange :=
  { exchange.stop with
    observers := exchange.observers.map fun observer => { observer with closed := true } }

end Exchange

end SessionBus
