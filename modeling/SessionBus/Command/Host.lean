import SessionBus.Command.Control
import SessionBus.Command.Daemon
import SessionBus.Command.Station

/-!
# The commands on one machine

A host carries out command lines.  A hub that was started listens at its path until it is
interrupted, and so does a control command stay that holds a session or prints packets.  Other
command lines come to their end at once.
-/

namespace SessionBus.Command

/-- What a command finds around it: the path in the environment, the directory with the
configurations of the user, and the files. -/
structure Surroundings where
  socketVariable : Option String
  configDirectory : Option String
  tree : FileTree
deriving DecidableEq, Repr

/-- A control command that stays, the station of its frame, and the lines that it has printed. -/
structure Running where
  number : Nat
  station : Nat
  frame : FrameId
  tickets : List Ticket
  printed : List String

/-- The hubs and the control commands that run, the newest first. -/
structure Host where
  stations : List Station
  commands : List Running
  nextNumber : Nat

namespace Host

def empty : Host :=
  ⟨[], [], 0⟩

def station? (host : Host) (path : String) : Option Station :=
  host.stations.find? fun station => station.listening && station.path == path

def setStation (host : Host) (changed : Station) : Host :=
  { host with
    stations := host.stations.map fun station =>
      if station.number = changed.number then changed else station }

/-- Takes away what lies at a path, so that no hub listens there. -/
def vacate (host : Host) (path : String) : Host :=
  { host with
    stations := host.stations.map fun station =>
      if station.path = path then { station with listening := false } else station }

/-- Starts a hub, in place of one that has listened at the same path. -/
def startHub (host : Host) (settings : Settings) : Nat × Host :=
  let number := host.nextNumber
  let host := host.vacate settings.socketPath
  (number,
    { host with
      stations := .start number settings Control.programName :: host.stations
      nextNumber := number + 1 })

/-- Lets a command print the packets that wait for it. -/
def printOne (host : Host) (command : Running) : Running × Host :=
  match host.stations.find? fun station => station.number == command.station with
  | none => (command, host)
  | some station =>
    let (lines, station) := station.onLinked fun network =>
      Control.printPackets network command.frame command.tickets
    ({ command with printed := command.printed ++ lines }, host.setStation station)

/-- Lets every command print the packets that wait for it. -/
def settle (host : Host) : Host :=
  let (commands, host) := host.commands.foldr
    (fun command (done, host) =>
      let (command, host) := host.printOne command
      (command :: done, host))
    ([], host)
  { host with commands }

/-- Works with the frames in the process of the hub that listens at a path. -/
def inside {α : Type} (host : Host) (path : String) (work : Network → α × Network) :
    Option α × Host :=
  match host.station? path with
  | none => (none, host)
  | some station =>
    let (result, station) := station.onInside work
    (some result, (host.setStation station).settle)

/-- Carries out a command line of the control command. -/
def control (host : Host) (surroundings : Surroundings) (now : Instant) (words : List String) :
    Outcome Nat × Host :=
  match Control.parse words with
  | .error refusal => (.ended (Control.program.refuse refusal), host)
  | .ok (flag, control) =>
    let path :=
      Settings.choosePath Settings.default.socketPath surroundings.socketVariable flag
    match host.station? path with
    | none =>
      let error : TransportError := .connect path (surroundings.tree.place path).reachFault
      (.ended (.failure (Control.Failure.connect error).message), host)
    | some station =>
      let (outcome, station) := station.onLinked fun network => control.start network now
      let host := host.setStation station
      match outcome with
      | .ended finish => (.ended finish, host.settle)
      | .stays staying =>
        let number := host.nextNumber
        let command : Running :=
          ⟨number, station.number, staying.frame, staying.tickets, staying.lines⟩
        (.stays number,
          { host with commands := command :: host.commands, nextNumber := number + 1 }.settle)

/-- Asks the hub at a path whether it is at work. -/
def status (host : Host) (surroundings : Surroundings) (now : Instant) (path : String) :
    Finish × Host :=
  match host.station? path with
  | none =>
    let fault : Daemon.ProbeFault := .unreachable path (surroundings.tree.place path).reachFault
    (Daemon.statusFinish path (.error fault), host)
  | some station =>
    let (result, station) := station.onHub fun hub => Daemon.probe hub now
    (Daemon.statusFinish path (result.getD (.error .closed)), host.setStation station)

/-- Carries out a command line of the daemon. -/
def daemon (host : Host) (surroundings : Surroundings) (now : Instant) (words : List String) :
    Outcome Nat × Host :=
  match Daemon.parse words with
  | .error refusal => (.ended (Daemon.program.refuse refusal), host)
  | .ok request =>
    match Daemon.settings request surroundings.socketVariable
        (surroundings.configDirectory.map Daemon.userConfig) surroundings.tree with
    | .error (path, error) => (.ended (Daemon.settingsFailure path error), host)
    | .ok settings =>
      match request.action with
      | .status =>
        let (finish, host) := host.status surroundings now settings.socketPath
        (.ended finish, host)
      | .start =>
        match (surroundings.tree.place settings.socketPath).listen with
        | .error fault =>
          let error : ServerError := .socketSetup settings.socketPath fault
          (.ended (.failure error.message), host)
        | .ok _ =>
          let (number, host) := host.startHub settings
          (.stays number, host)

/-- Carries out the command line of a program, if there is a program of that name. -/
def run? (host : Host) (surroundings : Surroundings) (now : Instant) (program : String)
    (words : List String) : Option (Outcome Nat × Host) :=
  if program = Control.programName then some (host.control surroundings now words)
  else if program = Daemon.program.name then some (host.daemon surroundings now words)
  else none

/-- Takes some of the lines that a command has printed, or as many as there are. -/
def takeLines (host : Host) (number lines : Nat) : List String × Host :=
  match host.commands.find? fun command => command.number == number with
  | none => ([], host)
  | some command =>
    (command.printed.take lines,
      { host with
        commands := host.commands.map fun other =>
          if other.number = number then
            { other with printed := other.printed.drop lines }
          else other })

/-- Interrupts what runs under a number: a control command lets its frame go, and a hub stops and
takes away what lies at its path. -/
def interrupt (host : Host) (now : Instant) (number : Nat) : Host :=
  match host.commands.find? fun command => command.number == number with
  | some command =>
    let host := { host with
      commands := host.commands.filter fun other => other.number != number }
    match host.stations.find? fun station => station.number == command.station with
    | none => host
    | some station =>
      (host.setStation
        (station.onLinked fun network => ((), network.close command.frame now)).2).settle
  | none =>
    match host.stations.find? fun station => station.number == number with
    | none => host
    | some station =>
      (host.setStation station.stop).vacate station.path

end Host

end SessionBus.Command
