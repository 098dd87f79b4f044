import SessionBus.Command.Arguments
import SessionBus.FileTree
import SessionBus.Hub.Server
import SessionBus.Message.Shown
import SessionBus.Settings

/-!
# The daemon command

`framebusd` runs a hub, or asks one whether it is at work.  Its settings come from a file, then the
environment, then the flags of the command line.

Left out are the two seconds after which a probe waits no longer for a line, and what the daemon
tells the log.
-/

namespace SessionBus.Command

/-- What the daemon command is asked to do. -/
inductive Daemon where
  | start
  | status
deriving DecidableEq, Repr

namespace Daemon

def program : ProgramForm where
  name := "framebusd"
  summary := "framebus hub - session-scoped messaging between frames"
  needsCommand := false
  options :=
    [{ name := "socket", allowsEmpty := false }, { name := "config", allowsEmpty := false }]
  commands :=
    [{ name := "start"
       summary := "Start the hub in the foreground"
       operands := []
       options := [] },
     { name := "status"
       summary := "Check whether a hub is answering on the socket"
       operands := []
       options := [] }]

/-- What a command line gives. -/
structure Request where
  socket : Option String
  config : Option String
  action : Daemon
deriving DecidableEq, Repr

/-- Reads a command line; without a command the hub is started. -/
def parse (words : List String) : Except Refusal Request := do
  let (form?, given) ← program.parse words
  let action :=
    match form? with
    | some form => if form.name = "status" then Daemon.status else Daemon.start
    | none => Daemon.start
  return { socket := given.value? "socket", config := given.value? "config", action }

/-- The path of the settings of a user, below the directory for configurations. -/
def userConfig (directory : String) : String :=
  directory ++ "/framebus/hub.toml"

/-- The settings of a request.  Those of the user count only if something lies at their path. -/
def settings (request : Request) (environment userConfig : Option String) (tree : FileTree) :
    Except (String × SettingsError) Settings := do
  let path := request.config <|> userConfig.filter fun path => tree.kind path != .missing
  let settings ←
    match path with
    | none => pure Settings.default
    | some path =>
      (Settings.load path (tree.content path)).mapError fun error => (path, error)
  return { settings with
    socketPath := Settings.choosePath settings.socketPath environment request.socket }

/-- How the daemon ends when its settings cannot be used. -/
def settingsFailure (path : String) (error : SettingsError) : Finish :=
  .failure (Finish.withCause ("Failed to load config " ++ path) error.message)

/-! ## Asking a hub -/

/-- Why no hub is found at work. -/
inductive ProbeFault where
  | unreachable (path : String) (fault : SystemFault)
  | closed
  | unreadable (error : Line.LineError)
  | rejected (reason : String)
  | unexpected (message : HubMessage)
  | unexpectedPong
deriving DecidableEq

def ProbeFault.message : ProbeFault → String
  | .unreachable path fault => "cannot connect to " ++ path ++ ": " ++ fault.message
  | .closed => "hub closed the connection"
  | .unreadable error => error.message
  | .rejected reason => "hub rejected probe: " ++ reason
  | .unexpected message => "unexpected reply: " ++ message.shown
  | .unexpectedPong => "unexpected reply to ping"

/-- The line with which the probe introduces itself. -/
def greeting : String :=
  Line.ofFrame (.ofRequest (.connect (some "framebusd status")))

/-- The line to which the hub answers with a pong. -/
def ping : String :=
  Line.ofFrame (.ofRequest (.ping 1))

/-- The line with which the probe leaves. -/
def farewell : String :=
  Line.ofFrame (.ofRequest .disconnect)

/-- The text of a line as the probe reads it: without the line feed, and without a carriage return in
front of that. -/
def textOf (line : String) : String :=
  match line.toList.reverse with
  | '\n' :: '\r' :: rest => .ofList rest.reverse
  | '\n' :: rest => .ofList rest.reverse
  | _ => line

/-- The identity that the first line of the hub gives to the probe. -/
def greeted (line : Option String) : Except ProbeFault FrameId :=
  match line with
  | none => .error .closed
  | some line =>
    match Line.parseHub (textOf line) with
    | .error error => .error (.unreadable error)
    | .ok (.connected _ frame) => .ok frame
    | .ok (.rejected reason _) => .error (.rejected reason)
    | .ok message => .error (.unexpected message)

/-- Whether the line after the ping is its answer. -/
def answered (line : Option String) : Except ProbeFault Unit :=
  match line with
  | none => .error .closed
  | some line =>
    match Line.parseHub (textOf line) with
    | .error error => .error (.unreadable error)
    | .ok (.pong 1) => .ok ()
    | .ok _ => .error .unexpectedPong

/-- What the probe makes of the lines that the hub writes to it, one after the other. -/
def verdict (lines : List String) : Except ProbeFault FrameId := do
  let frame ← greeted lines[0]?
  answered lines[1]?
  return frame

/-- The lines that a hub writes to a connection. -/
def linesTo (connection : Nat) (outputs : List Output) : List String :=
  (Output.messagesTo connection outputs).map Line.ofHub

/-- Asks a hub that listens, and leaves again. -/
def probe (hub : Hub) (now : Instant) : Except ProbeFault FrameId × Hub :=
  match hub.accept with
  | (none, hub) => (.error .closed, hub)
  | (some connection, hub) =>
    let (hub, first) := hub.receive connection now greeting.toUTF8.toList
    let (hub, second) := hub.receive connection now ping.toUTF8.toList
    let result := verdict (linesTo connection (first ++ second))
    let (hub, _) := hub.receive connection now farewell.toUTF8.toList
    let (hub, _) := hub.finish connection now
    (result, hub)

/-- How the question for the status ends. -/
def statusFinish (path : String) (result : Except ProbeFault FrameId) : Finish :=
  match result with
  | .ok frame =>
    .success ("Hub is running\nSocket: " ++ path ++ "\nProbe frame: " ++ frame.text ++ "\n")
  | .error fault => ⟨1, "Hub is not running: " ++ fault.message ++ "\n", ""⟩

end Daemon

end SessionBus.Command
