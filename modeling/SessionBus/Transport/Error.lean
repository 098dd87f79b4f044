import SessionBus.Message.Line
import SessionBus.Message.Shown
import SessionBus.Registry.Table
import SessionBus.SystemFault

/-!
# Failures of transports

A request may fail because the hub cannot be reached, because it refuses the frame or the request,
because it does not keep to the protocol, or because the connection is gone.
-/

namespace SessionBus

/-- A breach of the protocol. -/
inductive ProtocolFault where
  | unreadable (error : Line.LineError)
  | tooLarge (size : Nat)
  | unexpectedGreeting (message : HubMessage)
  | unexpectedReply (message : HubMessage)
deriving DecidableEq

def ProtocolFault.message : ProtocolFault → String
  | .unreadable error => error.message
  | .tooLarge size =>
    "Message too large (" ++ decimal size ++ " bytes, max: " ++ decimal Line.maxSize ++ ")"
  | .unexpectedGreeting message => "Unexpected response to connect: " ++ message.shown
  | .unexpectedReply message => "Unexpected reply: " ++ message.shown

/-- Why a request has no answer. -/
inductive TransportError where
  | connect (path : String) (fault : SystemFault)
  | rejected (reason : String)
  | versionMismatch (own other : Version)
  | protocol (fault : ProtocolFault)
  | remote (message : String) (code : Option String)
  | disconnected
  | switchboard (error : SwitchboardError)
deriving DecidableEq

def TransportError.message : TransportError → String
  | .connect path fault => "Failed to connect to hub at " ++ path ++ ": " ++ fault.message
  | .rejected reason => "Hub rejected frame: " ++ reason
  | .versionMismatch own other =>
    "Protocol version mismatch (frame: " ++ own.text ++ ", hub: " ++ other.text ++ ")"
  | .protocol fault => "Protocol error: " ++ fault.message
  | .remote message code =>
    let shownCode :=
      match code with
      | some code => " (" ++ code ++ ")"
      | none => ""
    "Hub error" ++ shownCode ++ ": " ++ message
  | .disconnected => "Transport disconnected"
  | .switchboard error => error.message

end SessionBus
