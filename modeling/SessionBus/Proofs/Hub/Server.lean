import SessionBus.Hub.Server
import SessionBus.Proofs.Bus.Inboxes
import SessionBus.Proofs.Hub.LineReader
import SessionBus.Transport.Link

/-!
# What a hub makes of a line

A line that was written for a message reaches the switchboard as the request of that message: the
line reader finds its document, which is read as the message.  The packets that come for frames are
then written to the connections that serve them, each to that of its frame.
-/

namespace SessionBus

namespace Connection

/-! ## Reading -/

/-- The line that a reader finds is read as the message that it was written for. -/
theorem parseFrame_compact
    {message : FrameMessage} (portable : message.IsPortable) {max : Nat}
    (short : message.toJson.compact.utf8ByteSize ≤ max) :
    Line.parseFrame message.toJson.compact max = .ok message := by
  have blank : ∀ c ∈ ([] : List Char), Text.isBlank c = true := nofun
  apply Line.parseFrame_written portable blank _ short
  rw [Json.toList_compact, List.append_nil]

theorem handle_serving
    {message : FrameMessage} (portable : message.IsPortable) {max : Nat}
    (short : message.toJson.compact.utf8ByteSize ≤ max) (exchange : Exchange) (now : Instant)
    (frame : FrameId) :
    handle exchange max now (.serving frame) (.line message.toJson.compact) =
      serve exchange frame now message.request := by
  simp only [handle, parseFrame_compact portable short]

theorem handle_greeting
    {message : FrameMessage} (portable : message.IsPortable) {max : Nat}
    (short : message.toJson.compact.utf8ByteSize ≤ max) (exchange : Exchange) (now : Instant)
    (deadline : Nat) :
    handle exchange max now (.greeting deadline) (.line message.toJson.compact) =
      greet exchange message := by
  simp only [handle, parseFrame_compact portable short]

end Connection

namespace Hub

variable {hub : Hub}

/-! ## Connections -/

theorem connection?_of_mem
    (apart : (hub.connections.map (·.number)).Nodup) {connection : Connection}
    (inside : connection ∈ hub.connections) :
    hub.connection? connection.number = some connection :=
  Keyed.find?_of_mem apart inside

/-- Nothing changes when a connection is set to what it is. -/
theorem setConnection_of_mem
    (hub : Hub) (apart : (hub.connections.map (·.number)).Nodup) {connection : Connection}
    (inside : connection ∈ hub.connections) (alive : connection.stage ≠ .ended) :
    hub.setConnection connection = hub := by
  have same : hub.connections.map (fun other =>
      if other.number = connection.number then connection else other) = hub.connections := by
    have each : ∀ other ∈ hub.connections,
        (if other.number = connection.number then connection else other) = other := by
      intro other known
      split
      · rename_i number
        exact Keyed.eq_of_mem apart inside known number.symm
      · rfl
    exact (List.map_congr_left each).trans (List.map_id' hub.connections)
  unfold setConnection
  cases stage : connection.stage with
  | ended =>
      exact absurd stage alive
  | greeting deadline =>
      simp only [same]
  | serving frame =>
      simp only [same]

/-- A hub handles what its reader finds in the line of a message. -/
theorem receive_line
    (apart : (hub.connections.map (·.number)).Nodup) {number : Nat} {stage : Stage}
    (inside : ⟨number, .start hub.maxMessageSize, stage⟩ ∈ hub.connections)
    (alive : stage ≠ .ended) (now : Instant) (message : FrameMessage) :
    hub.receive number now (Line.ofFrame message).toUTF8.toList =
      let settled := hub.settle ⟨number, .start hub.maxMessageSize, stage⟩
        (Connection.handle hub.exchange hub.maxMessageSize now stage
          (LineReader.seen hub.maxMessageSize message.toJson))
      (settled.1.forward.1, settled.2 ++ settled.1.forward.2) := by
  have found := connection?_of_mem apart inside
  have same := hub.setConnection_of_mem apart inside alive
  have fed : (LineReader.start hub.maxMessageSize).feed (Line.ofFrame message).toUTF8.toList =
      ([LineReader.seen hub.maxMessageSize message.toJson], .start hub.maxMessageSize) :=
    LineReader.feed_line _ hub.maxMessageSize
  simp only [receive, found, fed, same, handleAll, List.nil_append]

/-- A hub handles what the line of a message says, if the line is not too long. -/
theorem receive_ofFrame
    (apart : (hub.connections.map (·.number)).Nodup) {number : Nat} {stage : Stage}
    (inside : ⟨number, .start hub.maxMessageSize, stage⟩ ∈ hub.connections)
    (alive : stage ≠ .ended) (now : Instant) {message : FrameMessage}
    (short : message.toJson.compact.utf8ByteSize ≤ hub.maxMessageSize) :
    hub.receive number now (Line.ofFrame message).toUTF8.toList =
      let settled := hub.settle ⟨number, .start hub.maxMessageSize, stage⟩
        (Connection.handle hub.exchange hub.maxMessageSize now stage
          (.line message.toJson.compact))
      (settled.1.forward.1, settled.2 ++ settled.1.forward.2) := by
  rw [receive_line apart inside alive now message, LineReader.seen, if_pos short]

/-! ## Packets -/

/-- What is left of the packets for frames when those that some connections serve have theirs. -/
def leftBy (connections : List Connection) (pending : Pending) : Pending :=
  fun frame => if frame ∈ connections.filterMap servedFrame? then [] else pending frame

/-- The packets that are written to a connection. -/
def deliveries (pending : Pending) (connection : Connection) : List Output :=
  (servedFrame? connection).elim [] fun frame =>
    (pending frame).map fun packet => .write connection.number (.deliver packet)

theorem forwardOne_holds
    {exchange : Exchange} {board : Switchboard} {pending : Pending}
    (holds : exchange.Holds board pending) (connection : Connection) :
    (forwardOne connection exchange).2 = deliveries pending connection ∧
      (forwardOne connection exchange).1.Holds board (leftBy [connection] pending) := by
  cases served : servedFrame? connection with
  | none =>
      have same : leftBy [connection] pending = pending := by
        funext frame
        simp [leftBy, served]
      rw [same]
      simp only [forwardOne, deliveries, served]
      exact ⟨rfl, holds⟩
  | some frame =>
      have same : leftBy [connection] pending = pending.without frame := by
        funext other
        simp [leftBy, served, Pending.without]
      rcases holds.collect frame with ⟨packets, left⟩
      rw [same]
      simp only [forwardOne, deliveries, served, packets]
      exact ⟨rfl, left⟩

/-- One connection after the other is written the packets of its frame. -/
theorem forward_connections
    {board : Switchboard} (connections : List Connection)
    (apart : (connections.filterMap servedFrame?).Nodup) {exchange : Exchange}
    {pending : Pending} (holds : exchange.Holds board pending) (outputs : List Output) :
    let forwarded := connections.foldl
      (fun (exchange, outputs) connection =>
        let (exchange, more) := forwardOne connection exchange
        (exchange, outputs ++ more))
      (exchange, outputs)
    forwarded.2 = outputs ++ connections.flatMap (deliveries pending) ∧
      forwarded.1.Holds board (leftBy connections pending) := by
  induction connections generalizing exchange pending outputs with
  | nil =>
      have same : leftBy [] pending = pending := by
        funext frame
        simp [leftBy]
      simpa [same] using holds
  | cons connection rest ih =>
      rcases forwardOne_holds holds connection with ⟨written, left⟩
      have apartRest : (rest.filterMap servedFrame?).Nodup := by
        apply List.Nodup.sublist _ apart
        exact List.Sublist.filterMap _ (List.sublist_cons_self connection rest)
      obtain ⟨outputsRest, leftRest⟩ :=
        ih apartRest left (outputs ++ deliveries pending connection)
      have same : leftBy rest (leftBy [connection] pending) =
          leftBy (connection :: rest) pending := by
        funext frame
        cases served : servedFrame? connection with
        | none =>
            simp [leftBy, served]
        | some own =>
            by_cases here : frame = own <;> simp [leftBy, served, here]
      -- No two connections serve one frame, so this one takes nothing that is for the others.
      have others : ∀ other ∈ rest,
          deliveries (leftBy [connection] pending) other = deliveries pending other := by
        intro other inside
        cases served : servedFrame? connection with
        | none =>
            simp [leftBy, deliveries, served]
        | some own =>
            cases servedOther : servedFrame? other with
            | none =>
                simp [deliveries, servedOther]
            | some frame =>
                have different : frame ≠ own := by
                  rintro rfl
                  rw [List.filterMap_cons_some served, List.nodup_cons] at apart
                  exact apart.1 (List.mem_filterMap.mpr ⟨other, inside, servedOther⟩)
                simp [leftBy, deliveries, served, servedOther, different]
      simp only [List.foldl_cons, written]
      rw [same] at leftRest
      refine ⟨?_, leftRest⟩
      rw [outputsRest, List.flatMap_cons, List.append_assoc, List.flatMap_def, List.flatMap_def,
        List.map_congr_left others]

/-- The packets of frames are written to the connections that serve them. -/
theorem forward_holds
    {board : Switchboard} {pending : Pending} (holds : hub.exchange.Holds board pending)
    (apart : (hub.connections.filterMap servedFrame?).Nodup) :
    hub.forward.2 = hub.connections.flatMap (deliveries pending) ∧
      hub.forward.1.exchange.Holds board (leftBy hub.connections pending) :=
  forward_connections hub.connections apart holds []

/-- Nothing is written where nothing has come. -/
theorem forward_nothing
    (hub : Hub) {board : Switchboard} (holds : hub.exchange.Holds board .nothing) :
    hub.forward.2 = [] ∧ hub.forward.1.exchange.Holds board .nothing := by
  have quiet : ∀ (connections : List Connection) {exchange : Exchange},
      exchange.Holds board .nothing →
        let forwarded := connections.foldl
          (fun (exchange, outputs) connection =>
            let (exchange, more) := forwardOne connection exchange
            (exchange, outputs ++ more))
          (exchange, [])
        forwarded.2 = [] ∧ forwarded.1.Holds board .nothing := by
    intro connections
    induction connections with
    | nil =>
        intro exchange holds
        exact ⟨rfl, holds⟩
    | cons connection rest ih =>
        intro exchange holds
        rcases forwardOne_holds holds connection with ⟨outputs, left⟩
        have same : leftBy [connection] .nothing = .nothing := by
          funext frame
          simp [leftBy, Pending.nothing]
        have none : deliveries .nothing connection = [] := by
          cases served : servedFrame? connection <;> simp [deliveries, Pending.nothing, served]
        rw [same] at left
        simp only [List.foldl_cons, outputs, none, List.append_nil]
        exact ih left
  exact quiet hub.connections holds

/-! ## Hubs at rest -/

/-- The connection of a number that serves a frame and has read whole lines. -/
def serving (max : Nat) (entry : Nat × FrameId) : Connection :=
  ⟨entry.1, .start max, .serving entry.2⟩

/-- The hub serves the switchboard, nothing waits for frames, every connection serves its own, and
the next connection gets the next number. -/
structure Rests
    (hub : Hub) (board : Switchboard) (served : List (Nat × FrameId)) (next : Nat) : Prop where
  running : hub.stopping = false
  roomy : Line.maxSize ≤ hub.maxMessageSize
  holds : hub.exchange.Holds board .nothing
  connections : hub.connections = served.map (serving hub.maxMessageSize)
  numbers : (served.map (·.1)).Nodup
  frames : (served.map (·.2)).Nodup
  numbered : ∀ entry ∈ served, entry.1 < next
  given : hub.nextNumber = next

theorem rests_start
    (limits : Limits) {maxMessageSize : Nat} (roomy : Line.maxSize ≤ maxMessageSize) :
    (start limits maxMessageSize).Rests (.empty limits) [] 0 where
  running := rfl
  roomy := roomy
  holds := Exchange.holds_start limits
  connections := rfl
  numbers := List.nodup_nil
  frames := List.nodup_nil
  numbered := nofun
  given := rfl

variable {board : Switchboard} {served : List (Nat × FrameId)} {next : Nat}

theorem servedFrame?_serving (max : Nat) (served : List (Nat × FrameId)) :
    (served.map (serving max)).filterMap servedFrame? = served.map (·.2) := by
  simp [List.filterMap_map, Function.comp_def, servedFrame?, serving]

theorem Rests.apart (rests : hub.Rests board served next) :
    (hub.connections.map (·.number)).Nodup := by
  rw [rests.connections, List.map_map]
  exact rests.numbers

theorem Rests.servedApart (rests : hub.Rests board served next) :
    (hub.connections.filterMap servedFrame?).Nodup := by
  rw [rests.connections, servedFrame?_serving]
  exact rests.frames

theorem Rests.mem_connections
    (rests : hub.Rests board served next) {number : Nat} {frame : FrameId}
    (inside : (number, frame) ∈ served) :
    ⟨number, .start hub.maxMessageSize, .serving frame⟩ ∈ hub.connections := by
  rw [rests.connections]
  exact List.mem_map_of_mem inside

theorem Rests.withExchange
    (rests : hub.Rests board served next) {exchange : Exchange} {board' : Switchboard}
    (holds : exchange.Holds board' .nothing) :
    Rests { hub with exchange } board' served next :=
  ⟨rests.running, rests.roomy, holds, rests.connections, rests.numbers, rests.frames,
    rests.numbered, rests.given⟩

theorem Rests.forward (rests : hub.Rests board served next) :
    hub.forward.2 = [] ∧ hub.forward.1.Rests board served next := by
  rcases hub.forward_nothing rests.holds with ⟨outputs, holds⟩
  exact ⟨outputs, rests.withExchange holds⟩

/-- The request in a line of a frame is carried out. -/
theorem Rests.receive
    (rests : hub.Rests board served next) {number : Nat} {frame : FrameId}
    (inside : (number, frame) ∈ served) (now : Instant) {request : Request}
    (portable : (FrameMessage.ofRequest request).IsPortable)
    (short : (Line.ofFrame (.ofRequest request)).utf8ByteSize ≤ Line.maxSize) :
    hub.receive number now (Line.ofFrame (.ofRequest request)).toUTF8.toList =
      let settled := hub.settle (serving hub.maxMessageSize (number, frame))
        (Connection.serve hub.exchange frame now request)
      (settled.1.forward.1, settled.2 ++ settled.1.forward.2) := by
  have fits : (FrameMessage.ofRequest request).toJson.compact.utf8ByteSize ≤
      hub.maxMessageSize := by
    have room := rests.roomy
    rw [Line.ofFrame, Line.utf8ByteSize_ofJson] at short
    omega
  rw [receive_ofFrame rests.apart (rests.mem_connections inside) nofun now fits,
    Connection.handle_serving portable fits]
  rfl

/-- An answer that lets a connection go on changes nothing but the exchange. -/
theorem settle_serving
    (running : hub.stopping = false) (apart : (hub.connections.map (·.number)).Nodup)
    {entry : Nat × FrameId} (inside : serving hub.maxMessageSize entry ∈ hub.connections)
    {answer : Answer} (goesOn : answer.stage = .serving entry.2) :
    hub.settle (serving hub.maxMessageSize entry) answer =
      let after := { hub with exchange := answer.exchange }
      let written := answer.messages.map (Output.write entry.1)
      if answer.pauses then (after.forward.1, written ++ after.forward.2)
      else (after, written) := by
  let after := { hub with exchange := answer.exchange }
  have same : after.setConnection (serving hub.maxMessageSize entry) = after :=
    after.setConnection_of_mem apart inside nofun
  have kept : { serving hub.maxMessageSize entry with stage := .serving entry.2 } =
      serving hub.maxMessageSize entry := rfl
  have stays : ¬ hub.stopping = true := Bool.eq_false_iff.mp running
  unfold settle
  simp only [goesOn, if_neg stays, kept]
  change (if answer.pauses = true then _ else (after.setConnection _, _)) = _
  rw [same]
  rfl

/-! ## Requests -/

/-- What a frame is told about a call, and the switchboard afterwards. -/
def reply (board : Switchboard) (frame : FrameId) (now : Instant) (id : UInt64) :
    Call → HubMessage × Switchboard
  | .claim session =>
      (match (board.claim frame session now).reply with
        | .ok claimed => .sessionClaimed id claimed
        | .error error => Connection.refusal id error,
        (board.claim frame session now).board)
  | .join session displayName =>
      (.sessionJoined id (board.join frame session displayName now).reply,
        (board.join frame session displayName now).board)
  | .describe session => (.sessionDescribed id (board.table.describe session), board)

/-- A call is answered with what the switchboard says. -/
theorem serve_call
    {exchange : Exchange} (holds : exchange.Holds board .nothing) (frame : FrameId)
    (now : Instant) (id : UInt64) (what : Call) :
    ∃ after, Connection.serve exchange frame now (what.request id) =
        Connection.goOnAfterPause after frame (reply board frame now id what).1 ∧
      after.Holds (reply board frame now id what).2 .nothing := by
  cases what with
  | claim session =>
      rcases holds.claim frame session now with ⟨result, after⟩
      refine ⟨_, ?_, after⟩
      cases said : (board.claim frame session now).reply <;>
        simp [Call.request, Connection.serve, result, reply, said]
  | join session displayName =>
      rcases holds.join frame session displayName now with ⟨result, after⟩
      refine ⟨_, ?_, after⟩
      simp only [Call.request, Connection.serve, result, reply]
  | describe session =>
      refine ⟨exchange, ?_, holds⟩
      simp only [Call.request, Connection.serve, holds.describe, reply]

theorem isPortable_call (id : UInt64) (what : Call) :
    (FrameMessage.ofRequest (what.request id)).IsPortable := by
  cases what <;> exact nofun

/-- The line of a call is answered with one message. -/
theorem Rests.call
    (rests : hub.Rests board served next) {number : Nat} {frame : FrameId}
    (inside : (number, frame) ∈ served) (now : Instant) (id : UInt64) (what : Call)
    (short : (Line.ofFrame (.ofRequest (what.request id))).utf8ByteSize ≤ Line.maxSize) :
    let received :=
      hub.receive number now (Line.ofFrame (.ofRequest (what.request id))).toUTF8.toList
    received.2 = [.write number (reply board frame now id what).1] ∧
      received.1.Rests (reply board frame now id what).2 served next := by
  rcases serve_call rests.holds frame now id what with ⟨exchange, answer, holds⟩
  have received := rests.receive inside now (isPortable_call id what) short
  rw [answer, settle_serving rests.running rests.apart (rests.mem_connections inside) rfl]
    at received
  rcases (rests.withExchange holds).forward with ⟨quiet, first⟩
  rcases first.forward with ⟨quietAgain, second⟩
  simp only [received, Connection.goOnAfterPause, if_true, quiet, quietAgain]
  exact ⟨rfl, second⟩

/-- What is written to the connection of a frame when packets have come for frames. -/
def written (pending : Pending) (entry : Nat × FrameId) : List Output :=
  (pending entry.2).map fun packet => .write entry.1 (.deliver packet)

/-- A packet is written to the connections of the frames on its route. -/
theorem Rests.send
    (rests : hub.Rests board served next)
    (attached : ∀ frame ∈ board.frames.toList, frame ∈ served.map (·.2)) {number : Nat}
    {frame : FrameId} (inside : (number, frame) ∈ served) (now : Instant) (route : Route)
    {packet : Packet} (sender : packet.sender = frame)
    (portable : packet.data.document.IsPortable dataLevels)
    (short : (Line.ofFrame (.ofRequest (.send route packet))).utf8ByteSize ≤ Line.maxSize) :
    let received :=
      hub.receive number now (Line.ofFrame (.ofRequest (.send route packet))).toUTF8.toList
    received.2 = served.flatMap (written (.ofPacket board route packet)) ∧
      received.1.Rests board served next := by
  have own : { packet with sender := frame } = packet := by
    rw [← sender]
  have answer : Connection.serve hub.exchange frame now (.send route packet) =
      Connection.goOn (hub.exchange.deliver route packet) frame [] := by
    simp only [Connection.serve, own]
  have carried : (FrameMessage.ofRequest (.send route packet)).IsPortable := by
    rintro other ⟨⟩
    exact portable
  have received := rests.receive inside now carried short
  rw [answer, settle_serving rests.running rests.apart (rests.mem_connections inside) rfl]
    at received
  let after : Hub := { hub with exchange := hub.exchange.deliver route packet }
  have holds : after.exchange.Holds board (.ofPacket board route packet) :=
    rests.holds.deliver route packet
  rcases forward_holds holds rests.servedApart with ⟨outputs, left⟩
  have none : leftBy after.connections (.ofPacket board route packet) = .nothing := by
    funext other
    unfold leftBy
    split
    · rfl
    · rename_i unserved
      have connections : after.connections = served.map (serving hub.maxMessageSize) :=
        rests.connections
      rw [connections, servedFrame?_serving] at unserved
      have unregistered : other ∉ board.frames.toList :=
        fun known => unserved (attached other known)
      simp [Pending.ofPacket, Pending.nothing, unregistered]
  rw [none] at left
  have sent : after.connections.flatMap (deliveries (.ofPacket board route packet)) =
      served.flatMap (written (.ofPacket board route packet)) := by
    rw [show after.connections = served.map (serving hub.maxMessageSize) from rests.connections,
      List.flatMap_map]
    rfl
  simp only [received, Connection.goOn, Bool.false_eq_true, if_false, List.map_nil,
    List.nil_append]
  exact ⟨outputs.trans sent, rests.withExchange left⟩

/-- A farewell ends the connection of the frame. -/
theorem Rests.disconnect
    (rests : hub.Rests board served next) {number : Nat} {frame : FrameId}
    (inside : (number, frame) ∈ served) (now : Instant)
    (short : (Line.ofFrame (.ofRequest .disconnect)).utf8ByteSize ≤ Line.maxSize) :
    let received := hub.receive number now (Line.ofFrame (.ofRequest .disconnect)).toUTF8.toList
    received.2 = [.close number] ∧
      received.1.Rests (board.unregister frame).board
        (served.filter fun entry => entry.1 != number) next := by
  have plain : (FrameMessage.ofRequest .disconnect).IsPortable := nofun
  have received := rests.receive inside now plain short
  let after : Hub :=
    { hub with
      exchange := hub.exchange.unregister frame
      connections := hub.connections.filter fun connection => connection.number != number }
  have ended : hub.settle (serving hub.maxMessageSize (number, frame))
      (Connection.serve hub.exchange frame now .disconnect) = (after, [.close number]) := by
    simp only [Connection.serve, Connection.release, Connection.hangUp, settle, serving,
      setConnection]
    rfl
  have rested : after.Rests (board.unregister frame).board
      (served.filter fun entry => entry.1 != number) next := by
    constructor
    · exact rests.running
    · exact rests.roomy
    · exact rests.holds.unregister frame
    · simp only [after, rests.connections, List.filter_map]
      rfl
    · exact List.Nodup.sublist (List.filter_sublist.map _) rests.numbers
    · exact List.Nodup.sublist (List.filter_sublist.map _) rests.frames
    · exact fun entry kept => rests.numbered entry (List.mem_filter.mp kept).1
    · exact rests.given
  rcases rested.forward with ⟨quiet, final⟩
  simp only [received, ended, quiet]
  exact ⟨rfl, final⟩

/-! ## Greetings -/

/-- The connection that a hub takes in next. -/
def accepted (hub : Hub) : Connection :=
  ⟨hub.nextNumber, .start hub.maxMessageSize, .greeting (hub.clock + handshakeTimeout)⟩

def accepting (hub : Hub) : Hub :=
  { hub with
    connections := hub.connections ++ [hub.accepted], nextNumber := hub.nextNumber + 1 }

theorem accept_of_running (running : hub.stopping = false) :
    hub.accept = (some hub.nextNumber, hub.accepting) := by
  unfold Hub.accept
  rw [if_neg (Bool.eq_false_iff.mp running)]
  rfl

theorem Rests.accept (rests : hub.Rests board served next) :
    hub.accept = (some hub.nextNumber, hub.accepting) :=
  accept_of_running rests.running

theorem Rests.number_ne_next (rests : hub.Rests board served next) :
    ∀ connection ∈ hub.connections, connection.number ≠ hub.nextNumber := by
  rw [rests.connections, List.forall_mem_map]
  intro entry inside
  exact Nat.ne_of_lt (rests.given ▸ rests.numbered entry inside)

/-- The greeting of a frame asks the switchboard to take it in. -/
theorem Rests.greeted
    (rests : hub.Rests board served next) (displayName : Option String) (now : Instant)
    (short : (SocketLink.greeting displayName).utf8ByteSize ≤ Line.maxSize) :
    hub.accepting.receive hub.nextNumber now (SocketLink.greeting displayName).toUTF8.toList =
      let settled := hub.accepting.settle hub.accepted
        (Connection.greet hub.exchange (.ofRequest (.connect displayName)))
      (settled.1.forward.1, settled.2 ++ settled.1.forward.2) := by
  have plain : (FrameMessage.ofRequest (.connect displayName)).IsPortable := nofun
  have fits : (FrameMessage.ofRequest (.connect displayName)).toJson.compact.utf8ByteSize ≤
      hub.accepting.maxMessageSize := by
    have room : Line.maxSize ≤ hub.accepting.maxMessageSize := rests.roomy
    rw [SocketLink.greeting, Line.ofFrame, Line.utf8ByteSize_ofJson] at short
    omega
  have apart : (hub.accepting.connections.map (·.number)).Nodup :=
    Keyed.apart_append.mpr ⟨rests.apart, rests.number_ne_next⟩
  have inside : hub.accepted ∈ hub.accepting.connections :=
    List.mem_append_right _ (List.mem_singleton_self _)
  have received := receive_ofFrame apart inside (by simp) now fits
  rw [Connection.handle_greeting plain fits] at received
  exact received

/-- The current version is compatible with itself. -/
theorem greet_connect (exchange : Exchange) (displayName : Option String) :
    Connection.greet exchange (.ofRequest (.connect displayName)) =
      match exchange.register with
      | (.error error, exchange) => Connection.refuse (.reject error.message) exchange
      | (.ok frame, exchange) => Connection.goOn exchange frame [.accept frame] :=
  rfl

theorem settle_goOn
    (hub : Hub) (running : hub.stopping = false) (connection : Connection) (exchange : Exchange)
    (frame : FrameId) (messages : List HubMessage) :
    hub.settle connection (Connection.goOn exchange frame messages) =
      (({ hub with exchange } : Hub).setConnection { connection with stage := .serving frame },
        messages.map (Output.write connection.number)) := by
  have stays : ¬ hub.stopping = true := Bool.eq_false_iff.mp running
  simp only [settle, Connection.goOn, if_neg stays]
  rfl

theorem setConnection_append
    (hub : Hub) {connections : List Connection} {connection changed : Connection}
    (split : hub.connections = connections ++ [connection])
    (number : connection.number = changed.number)
    (fresh : ∀ other ∈ connections, other.number ≠ changed.number) {frame : FrameId}
    (stage : changed.stage = .serving frame) :
    hub.setConnection changed = { hub with connections := connections ++ [changed] } := by
  have others : connections.map (fun other =>
      if other.number = changed.number then changed else other) = connections := by
    have each : ∀ other ∈ connections,
        (if other.number = changed.number then changed else other) = other :=
      fun other inside => if_neg (fresh other inside)
    exact (List.map_congr_left each).trans (List.map_id' connections)
  unfold setConnection
  simp only [stage, split, List.map_append, others, List.map_singleton, number, if_true]

/-- The connection of a frame that is taken in serves it. -/
theorem Rests.admit
    (rests : hub.Rests board served next) (displayName : Option String) (now : Instant)
    (short : (SocketLink.greeting displayName).utf8ByteSize ≤ Line.maxSize) {frame : FrameId}
    (admitted : board.register.reply = .ok frame) :
    let received :=
      hub.accepting.receive hub.nextNumber now (SocketLink.greeting displayName).toUTF8.toList
    received.2 = [.write hub.nextNumber (.accept frame)] ∧
      (frame ∉ served.map (·.2) →
        received.1.Rests board.register.board (served ++ [(hub.nextNumber, frame)])
          (hub.nextNumber + 1)) := by
  rcases rests.holds.register with ⟨result, holds⟩
  have registered : hub.exchange.register = (.ok frame, hub.exchange.register.2) := by
    rw [← admitted, ← result]
  let after : Hub :=
    { hub with
      exchange := hub.exchange.register.2
      connections := hub.connections ++ [serving hub.maxMessageSize (hub.nextNumber, frame)]
      nextNumber := hub.nextNumber + 1 }
  have settled : hub.accepting.settle hub.accepted
      (Connection.goOn hub.exchange.register.2 frame [.accept frame]) =
        (after, [.write hub.nextNumber (.accept frame)]) := by
    let opening : Hub := { hub.accepting with exchange := hub.exchange.register.2 }
    have split : opening.connections = hub.connections ++ [hub.accepted] := rfl
    have set : opening.setConnection { hub.accepted with stage := .serving frame } = after :=
      opening.setConnection_append split rfl rests.number_ne_next rfl
    rw [hub.accepting.settle_goOn rests.running]
    exact congrArg (fun hub => (hub, [Output.write _ (.accept frame)])) set
  have received := rests.greeted displayName now short
  rw [greet_connect, registered] at received
  rcases after.forward_nothing holds with ⟨quiet, left⟩
  simp only [received, settled, quiet]
  refine ⟨rfl, fun fresh => ?_⟩
  have connections : after.connections =
      (served ++ [(hub.nextNumber, frame)]).map (serving hub.maxMessageSize) := by
    rw [List.map_append, ← rests.connections]
    rfl
  constructor
  · exact rests.running
  · exact rests.roomy
  · exact left
  · exact connections
  · apply Keyed.apart_append.mpr ⟨rests.numbers, ?_⟩
    intro entry inside
    exact Nat.ne_of_lt (rests.given ▸ rests.numbered entry inside)
  · apply Keyed.apart_append.mpr ⟨rests.frames, ?_⟩
    rintro entry inside rfl
    exact fresh (List.mem_map_of_mem inside)
  · intro entry inside
    rcases List.mem_append.mp inside with old | new
    · exact Nat.lt_succ_of_lt (rests.given ▸ rests.numbered entry old)
    · rw [List.mem_singleton.mp new]
      exact Nat.lt_succ_self _
  · rfl

/-- The connection of a frame that is refused is closed. -/
theorem Rests.refuse
    (rests : hub.Rests board served next) (displayName : Option String) (now : Instant)
    (short : (SocketLink.greeting displayName).utf8ByteSize ≤ Line.maxSize)
    {error : SwitchboardError} (refused : board.register.reply = .error error) :
    let received :=
      hub.accepting.receive hub.nextNumber now (SocketLink.greeting displayName).toUTF8.toList
    received.2 =
        [.write hub.nextNumber (.reject error.message), .close hub.nextNumber] ∧
      received.1.Rests board.register.board served (hub.nextNumber + 1) ∧
      received.1.connection? hub.nextNumber = none := by
  rcases rests.holds.register with ⟨result, holds⟩
  have registered : hub.exchange.register = (.error error, hub.exchange.register.2) := by
    rw [← refused, ← result]
  let after : Hub :=
    { hub with exchange := hub.exchange.register.2, nextNumber := hub.nextNumber + 1 }
  have others : hub.connections.filter (fun connection =>
      connection.number != hub.nextNumber) = hub.connections := by
    rw [List.filter_eq_self]
    intro connection inside
    simpa using rests.number_ne_next connection inside
  have settled : hub.accepting.settle hub.accepted
      (Connection.refuse (.reject error.message) hub.exchange.register.2) =
        (after, [.write hub.nextNumber (.reject error.message), .close hub.nextNumber]) := by
    simp only [settle, Connection.refuse, setConnection, accepting, accepted, List.filter_append,
      others]
    simp [after]
  have received := rests.greeted displayName now short
  rw [greet_connect, registered] at received
  have rested : after.Rests board.register.board served (hub.nextNumber + 1) :=
    ⟨rests.running, rests.roomy, holds, rests.connections, rests.numbers, rests.frames,
      fun entry inside => Nat.lt_succ_of_lt (rests.given ▸ rests.numbered entry inside), rfl⟩
  rcases rested.forward with ⟨quiet, left⟩
  simp only [received, settled, quiet]
  refine ⟨rfl, left, ?_⟩
  apply Keyed.find?_eq_none
  intro inside
  rcases List.mem_map.mp inside with ⟨connection, known, number⟩
  exact rests.number_ne_next connection known number

end Hub

end SessionBus
