import SessionBus.Message.Line
import SessionBus.Registry.Switchboard
import SessionBus.SystemFault
import SessionBus.Toml.Reader

/-!
# Settings of a hub

A TOML document may set the path of the socket and the limits of a hub; what it leaves out has a
default, and names that are no settings are ignored.  No limit may be zero.
-/

namespace SessionBus

/-- Where a hub listens, and its limits. -/
structure Settings where
  socketPath : String := "/tmp/framebus.sock"
  maxMessageSize : Nat := Line.maxSize
  limits : Limits := {}
deriving DecidableEq, Repr

/-- Why settings cannot be used. -/
inductive SettingsError where
  | unreadable (path : String) (fault : SystemFault)
  | malformed
  | zero (name : String)
deriving DecidableEq, Repr

def SettingsError.message : SettingsError → String
  | .unreadable path fault => "failed to read config " ++ path ++ ": " ++ fault.message
  | .malformed => "invalid config: TOML parse error"
  | .zero name => "invalid config: " ++ name ++ " must be at least 1"

namespace Settings

/-- The settings that hold where nothing else is said. -/
def default : Settings := {}

/-- A limit that a document sets, or its default. -/
def limit? (entries : Toml.Entries) (name : String) (otherwise : Nat) : Option Nat :=
  match entries.lookup name with
  | none => some otherwise
  | some (.integer (.ofNat n)) => some n
  | some _ => none

/-- A text that a document sets, or its default. -/
def text? (entries : Toml.Entries) (name otherwise : String) : Option String :=
  match entries.lookup name with
  | none => some otherwise
  | some (.string text) => some text
  | some _ => none

/-- The settings of a document, its limits unchecked. -/
def ofEntries? (entries : Toml.Entries) : Option Settings := do
  let socketPath ← text? entries "socket_path" default.socketPath
  let maxMessageSize ← limit? entries "max_message_size" default.maxMessageSize
  let maxFrames ← limit? entries "max_frames" default.limits.maxFrames
  let maxSessions ← limit? entries "max_sessions" default.limits.maxSessions
  return { socketPath, maxMessageSize, limits := { maxFrames, maxSessions } }

/-- Refuses a limit of zero; of several the first is named. -/
def check (settings : Settings) : Except SettingsError Settings :=
  if settings.limits.maxFrames = 0 then .error (.zero "max_frames")
  else if settings.limits.maxSessions = 0 then .error (.zero "max_sessions")
  else if settings.maxMessageSize = 0 then .error (.zero "max_message_size")
  else .ok settings

def parse (document : String) : Except SettingsError Settings :=
  match (Toml.parse document).bind ofEntries? with
  | none => .error .malformed
  | some settings => settings.check

/-- The settings of a file, whose text is `content`. -/
def load (path : String) (content : Except SystemFault String) : Except SettingsError Settings :=
  match content with
  | .error fault => .error (.unreadable path fault)
  | .ok document => parse document

/-- The path that the environment or a flag sets in place of another; the flag has precedence. -/
def choosePath (path : String) (environment flag : Option String) : String :=
  (flag <|> environment).getD path

end Settings

end SessionBus
