import SessionBus.Message.Frame
import SessionBus.Message.Hub

/-!
# Lines

Every message is one line: its document without blanks, and a line feed.  A line that is too long
is refused before its text is looked at; the blanks around the document do not matter.
-/

namespace SessionBus.Line

/-- The greatest number of bytes in a line. -/
def maxSize : Nat := 1048576

/-- Why a line is refused. -/
inductive LineError where
  | tooLarge (size max : Nat)
  | empty
  | json (error : Json.Error)
deriving DecidableEq, Repr

def LineError.message : LineError → String
  | .tooLarge size max =>
    "message too large: " ++ decimal size ++ " bytes (max " ++ decimal max ++ ")"
  | .empty => "empty message"
  | .json error => "invalid JSON: " ++ error.message

/-- The document text in a line of at most `max` bytes. -/
def body (line : String) (max : Nat) : Except LineError (List Char) :=
  if max < line.utf8ByteSize then .error (.tooLarge line.utf8ByteSize max)
  else
    match Text.trim line.toList with
    | [] => .error .empty
    | text => .ok text

def parseWith {α : Type} (reader : Json.Reader α) (line : String) (max : Nat) :
    Except LineError α := do
  (Json.readWhole reader (← body line max)).mapError .json

/-- The message from a frame in a line of at most `max` bytes. -/
def parseFrame (line : String) (max : Nat) : Except LineError FrameMessage :=
  parseWith (FrameMessage.read Json.maxLevels) line max

def parseHub (line : String) : Except LineError HubMessage :=
  parseWith (HubMessage.decoder.text Json.maxLevels) line maxSize

def ofJson (document : Json) : String :=
  document.compact.push '\n'

def ofFrame (message : FrameMessage) : String :=
  ofJson message.toJson

def ofHub (message : HubMessage) : String :=
  ofJson message.toJson

end SessionBus.Line
