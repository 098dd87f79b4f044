import SessionBus.Hub.Server

/-!
# The tasks of a hub

What comes to a hub is handled by tasks that take turns.  Two of them look after a connection: one
hears the lines that are found there and writes the answers, the other takes the packets that wait
for the frame and writes them, one by one.  Any of their writes may fail, because the connection is
broken or because nothing is taken from it for ten seconds.

A line whose write fails is cut off: some of its bytes may go out, at once or with what is written
next, and what comes behind them need not be readable.  After an answer that is cut off nothing is
heard on the connection any more, and it ends.  After a packet that is cut off no more packets are
written there, but answers are.

A step runs to its end: a line is handled, its command decided by the switchboard and its answer
written before another task has its turn, while a packet may go out between any two lines.  If no
write fails, the steps do what the hub of `SessionBus.Hub.Server` does, in its order
(`BusyHub.exists_run_eq_takeAll`).  The hub runs, and the tasks are what is said about its
connections when writes fail.
-/

namespace SessionBus

/-- What a task does on a connection.  The line of a message is written whole, or it is cut off. -/
inductive Effect where
  | write (connection : Nat) (message : HubMessage)
  | cut (connection : Nat) (message : HubMessage)
  | close (connection : Nat)
deriving DecidableEq

def Output.effect : Output → Effect
  | .write connection message => .write connection message
  | .close connection => .close connection

/-- What is left to do on a connection: what is to be heard, with `none` at the end of the stream,
and whether packets are written. -/
structure Backlog where
  waiting : List (Option Incoming)
  forwards : Bool

/-- A hub with the tasks of its connections. -/
structure BusyHub where
  hub : Hub
  tasks : Nat → Backlog

namespace BusyHub

def start (limits : Limits) (maxMessageSize : Nat) : BusyHub where
  hub := .start limits maxMessageSize
  tasks _ := ⟨[], true⟩

/-- A step of a task.  Whether a write succeeds is said with the step that writes; time passes, and
streams end or are lost, as they do. -/
inductive Step where
  | accept
  | read (number : Nat) (bytes : List UInt8)
  | finish (number : Nat)
  | lose (number : Nat)
  | handle (number : Nat) (now : Instant) (written : Bool)
  | forward (number : Nat) (written : Bool)
  | leave (number : Nat)
  | pass (milliseconds : Nat)
  | stop

/-- Goes on with a hub and with something else to be heard on a connection. -/
def await (busy : BusyHub) (hub : Hub) (number : Nat) (waiting : List (Option Incoming)) :
    BusyHub where
  hub
  tasks other := if other = number then { busy.tasks other with waiting } else busy.tasks other

/-- Writes no more packets to a connection. -/
def mute (busy : BusyHub) (hub : Hub) (number : Nat) : BusyHub where
  hub
  tasks other :=
    if other = number then { busy.tasks other with forwards := false } else busy.tasks other

/-- Whether nothing more is read on a connection. -/
def hasEnded (busy : BusyHub) (number : Nat) : Bool :=
  (busy.tasks number).waiting.contains none

/-- Reads bytes, and finds lines in them. -/
def read (busy : BusyHub) (connection : Connection) (bytes : List UInt8) : BusyHub :=
  let (found, reader) := connection.reader.feed bytes
  busy.await (busy.hub.setConnection { connection with reader }) connection.number
    ((busy.tasks connection.number).waiting ++ found.map some)

/-- Finds that nothing more is to be read, behind what was found last. -/
def finish (busy : BusyHub) (connection : Connection) (last : Option Incoming) : BusyHub :=
  busy.await busy.hub connection.number
    ((busy.tasks connection.number).waiting ++ last.toList.map some ++ [none])

def leave (busy : BusyHub) (connection : Connection) : BusyHub × List Effect :=
  let (hub, outputs) :=
    busy.hub.settle connection (Connection.endOfStream busy.hub.exchange connection.stage)
  ({ busy with hub }, outputs.map Output.effect)

/-- The answer to something that was found on a connection. -/
def answer (busy : BusyHub) (connection : Connection) (now : Instant) (incoming : Incoming) :
    Answer :=
  Connection.handle busy.hub.exchange busy.hub.maxMessageSize now connection.stage incoming

/-- Carries out an answer, before the rest is heard. -/
def reply (busy : BusyHub) (connection : Connection) (answer : Answer)
    (rest : List (Option Incoming)) : BusyHub × List Effect :=
  let (hub, outputs) := busy.hub.settle connection { answer with pauses := false }
  (busy.await hub connection.number rest, outputs.map Output.effect)

/-- Carries out an answer that cannot be written.  The connection has come to its end with it. -/
def breakOff (busy : BusyHub) (connection : Connection) (answer : Answer) :
    BusyHub × List Effect :=
  let (hub, outputs) := busy.hub.settle connection (answer.unwritten connection.stage)
  (busy.await hub connection.number [none],
    answer.messages.map (Effect.cut connection.number) ++ outputs.map Output.effect)

/-- Handles what is to be heard first on a connection. -/
def handle (busy : BusyHub) (connection : Connection) (now : Instant) (written : Bool) :
    BusyHub × List Effect :=
  match (busy.tasks connection.number).waiting with
  | [] => (busy, [])
  | none :: _ => busy.leave connection
  | some incoming :: rest =>
    let answer := busy.answer connection now incoming
    if written || answer.messages.isEmpty then busy.reply connection answer rest
    else busy.breakOff connection answer

/-- Writes the packet that has waited longest for the frame of a connection. -/
def forward (busy : BusyHub) (connection : Connection) (written : Bool) : BusyHub × List Effect :=
  match Hub.servedFrame? connection with
  | none => (busy, [])
  | some frame =>
    match busy.hub.exchange.takeNext? frame with
    | none => (busy, [])
    | some (packet, exchange) =>
      if written then
        ({ busy with hub := { busy.hub with exchange } },
          [.write connection.number (.deliver packet)])
      else
        (busy.mute { busy.hub with exchange := exchange.discard frame } connection.number,
          [.cut connection.number (.deliver packet)])

/-- Whether a connection may be left before its stream ends: when its first line is not there in
time, and when the hub shuts down, which may be at any time. -/
def mayLeave (busy : BusyHub) (connection : Connection) : Bool :=
  Hub.isLate busy.hub.clock connection || (Hub.servedFrame? connection).isSome

/-- Does something with a connection that is there. -/
def on (busy : BusyHub) (number : Nat) (act : Connection → BusyHub × List Effect) :
    BusyHub × List Effect :=
  match busy.hub.connection? number with
  | none => (busy, [])
  | some connection => act connection

/-- The hub after a step, and what the step does on connections.  A step that cannot be taken changes
nothing.  A stream that ends may leave a line unfinished, which is found then; the last line of one
that is lost, because it cannot be read any more, is not. -/
def step (busy : BusyHub) : Step → BusyHub × List Effect
  | .accept => ({ busy with hub := busy.hub.accept.2 }, [])
  | .read number bytes =>
    busy.on number fun connection =>
      (if busy.hasEnded number then busy else busy.read connection bytes, [])
  | .finish number =>
    busy.on number fun connection =>
      (if busy.hasEnded number then busy
        else busy.finish connection connection.reader.finish, [])
  | .lose number =>
    busy.on number fun connection =>
      (if busy.hasEnded number then busy else busy.finish connection none, [])
  | .handle number now written =>
    busy.on number fun connection => busy.handle connection now written
  | .forward number written =>
    busy.on number fun connection =>
      if (busy.tasks number).forwards then busy.forward connection written else (busy, [])
  | .leave number =>
    busy.on number fun connection =>
      if busy.mayLeave connection then busy.leave connection else (busy, [])
  | .pass milliseconds =>
    ({ busy with hub := { busy.hub with clock := busy.hub.clock + milliseconds } }, [])
  | .stop =>
    (if busy.hub.connections.any fun connection => (Hub.servedFrame? connection).isSome then busy
      else { busy with hub := { busy.hub with stopping := true } }, [])

def run (busy : BusyHub) : List Step → BusyHub × List Effect
  | [] => (busy, [])
  | step :: rest =>
    let (busy, effects) := busy.step step
    let (busy, more) := busy.run rest
    (busy, effects ++ more)

end BusyHub

end SessionBus
