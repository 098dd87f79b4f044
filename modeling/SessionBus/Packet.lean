import SessionBus.Frame.Set
import SessionBus.Session

/-!
# Packets and routes

A packet is one message from a frame to others, on a topic.  A packet with a destination goes to
one frame; a packet without one is a broadcast, which belongs to a session.

A route names the frames that get a packet: every frame but the sender, or the frames of a set.
-/

namespace SessionBus

open Json (Decoder Fields Variant)

/-- A message from a frame to others. -/
structure Packet where
  topic : String
  data : Json.Value
  sender : FrameId
  session : Option SessionId
  destination : Option FrameId
deriving DecidableEq

/-- The frames that get a packet. -/
inductive Route where
  | broadcast
  | frames (set : FrameSet)
deriving DecidableEq

namespace Route

def ofList (list : List FrameId) : Route :=
  .frames (.ofList list)

def toFrame (frame : FrameId) : Route :=
  .frames (.single frame)

/-- Whether a frame gets the packets of a sender on this route. -/
def includes (route : Route) (frame sender : FrameId) : Bool :=
  match route with
  | .broadcast => frame != sender
  | .frames set => set.contains frame

def toJson : Route → Json
  | .broadcast => .object [("kind", .string "broadcast")]
  | .frames set =>
    .object [("kind", .string "frames"), ("frames", .array (set.toList.map FrameId.toJson))]

def variants : List (Variant Route) :=
  [.bare "broadcast" .broadcast,
   .record "frames" "Route::Frames"
    ((Fields.one "frames" (Decoder.list FrameId.decoder)).map ofList)]

def decoder : Decoder Route :=
  .union "Route" "kind" variants

end Route

namespace Packet

def ofSession (topic : String) (data : Json.Value) (sender : FrameId) (session : SessionId) :
    Packet where
  topic := topic
  data := data
  sender := sender
  session := some session
  destination := none

def toFrame (topic : String) (data : Json.Value) (sender destination : FrameId) : Packet where
  topic := topic
  data := data
  sender := sender
  session := none
  destination := some destination

def isBroadcast (packet : Packet) : Bool :=
  packet.destination.isNone

/-- The route by which a packet reaches its destination. -/
def route (packet : Packet) : Route :=
  match packet.destination with
  | some destination => .toFrame destination
  | none => .broadcast

def toJson (packet : Packet) : Json :=
  .object ([("topic", .string packet.topic), ("data", packet.data.document),
      ("sender_frame_id", packet.sender.toJson)] ++
    optionalMember "session_id" SessionId.toJson packet.session ++
    optionalMember "destination_frame_id" FrameId.toJson packet.destination)

def decoder : Decoder Packet :=
  .record "Packet" <|
    ((Fields.one "topic" Decoder.string).both
      ((Fields.one "data" Decoder.value).both
        ((Fields.one "sender_frame_id" FrameId.decoder).both
          ((optionalField "session_id" SessionId.decoder).both
            (optionalField "destination_frame_id" FrameId.decoder))))).map
      fun (topic, data, sender, session, destination) =>
        { topic, data, sender, session, destination }

end Packet

/-- A payload that could not be written as JSON or read from it. -/
structure PayloadError where
  topic : String
  error : Json.Error
deriving DecidableEq, Repr

def PayloadError.message (e : PayloadError) : String :=
  "Payload error on topic '" ++ e.topic ++ "': " ++ e.error.message

/-- Reads the data of a packet with a decoder of the application. -/
def Packet.decode {α : Type} (packet : Packet) (decoder : Decoder α) : Except PayloadError α :=
  (decoder.ofValue packet.data).mapError fun cause => ⟨packet.topic, ⟨cause, none⟩⟩

end SessionBus
