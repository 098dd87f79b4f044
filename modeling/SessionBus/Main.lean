import SessionBus.Command.Host
import Std.Time.DateTime

/-!
# The programs

The first word of the command line names a program, `framectl` or `framebusd`, and the others are
its words.  Hubs and frames live in one process: when a program stays, further command lines come
from standard input, each of them a JSON list of words on a line of its own, and what a command that
stays prints appears after the next of them.
-/

open SessionBus SessionBus.Command

def readClock : IO Instant := do
  let time := Std.Time.DateTime.ofTimestamp (← Std.Time.Timestamp.now)
    Std.Time.TimeZone.ZoneRules.UTC
  let instant? := Instant.ofFields? time.year.toInt time.month.toNat time.day.toNat
    time.hour.toNat time.minute.toNat time.second.toNat time.nanosecond.toNat
  return instant?.getD .epoch

/-- The directory with the configurations of the user. -/
def configDirectory : IO (Option String) := do
  match ← IO.getEnv "XDG_CONFIG_HOME" with
  | some directory => if directory.startsWith "/" then return some directory
  | none => pure ()
  return (← IO.getEnv "HOME").map (· ++ "/.config")

def lookAt (path : String) : IO FileTree := do
  try
    return ⟨[(path, (← IO.FS.readBinFile path).toList)], []⟩
  catch
    | .noFileOrDirectory .. => return ⟨[], []⟩
    | .inappropriateType .. => return ⟨[], [path]⟩
    | _ => return ⟨[(path, [])], []⟩

/-- What the command line of a program finds around it. -/
def surroundingsOf (words : List String) : IO Surroundings := do
  let directory ← configDirectory
  let request? := (Daemon.parse words).toOption
  let path? := (request?.bind (·.config)) <|> directory.map Daemon.userConfig
  let tree ←
    match path? with
    | some path => lookAt path
    | none => pure ⟨[], []⟩
  return ⟨← IO.getEnv "FRAMEBUS_SOCKET", directory, tree⟩

/-- Prints the lines of the commands that stay. -/
def printLines (host : Host) : IO Host := do
  let mut host := host
  for command in host.commands.reverse do
    for line in command.printed do
      IO.println line
    host := (host.takeLines command.number command.printed.length).2
  return host

/-- Carries out one command line; there is a status if the program has come to its end. -/
def carryOut (host : Host) (program : String) (words : List String) :
    IO (Option UInt32 × Host) := do
  let surroundings ← surroundingsOf words
  match host.run? surroundings (← readClock) program words with
  | none =>
    IO.eprintln ("error: no program '" ++ program ++ "'")
    return (some 2, host)
  | some (.ended finish, host) =>
    let host ← printLines host
    IO.print finish.output
    IO.eprint finish.errors
    return (some finish.status, host)
  | some (.stays _, host) => return (none, ← printLines host)

/-- Carries out the command lines of a stream. -/
partial def carryOutAll (host : Host) (input : IO.FS.Stream) : IO Unit := do
  let line ← input.getLine
  if line.isEmpty then return
  match (Json.Decoder.list .string).decode line with
  | .ok (program :: words) =>
    let (_, host) ← carryOut host program words
    carryOutAll host input
  | .ok [] => carryOutAll host input
  | .error error =>
    IO.eprintln ("error: " ++ error.message)
    carryOutAll host input

/-- Carries out a command line and, while a program stays, those of standard input. -/
def main (args : List String) : IO UInt32 := do
  match args with
  | [] =>
    IO.eprintln "usage: framectl WORDS | framebusd WORDS"
    return 2
  | program :: words =>
    let (status?, host) ← carryOut .empty program words
    match status? with
    | some status => return status
    | none =>
      carryOutAll host (← IO.getStdin)
      return 0
