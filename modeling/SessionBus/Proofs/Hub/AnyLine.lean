import SessionBus.Proofs.Hub.Fate
import SessionBus.Proofs.Message.Delivered
import SessionBus.Proofs.Registry.Turn

/-!
# What a hub makes of a line of any size

A hub may take shorter lines than its frames write, and the data of a packet may be read otherwise
than they were written.  Still the line of a call is answered with what the switchboard has decided,
unless it is too long, and then the switchboard has not seen it.  A line that carries a packet never
touches the sessions.  What the hub writes besides its answers are packets for frames.
-/

namespace SessionBus

/-- The outputs hand packets over, and nothing else. -/
def Output.AreDeliveries (outputs : List Output) : Prop :=
  ∀ output ∈ outputs, ∃ number packet, output = .write number (.deliver packet)

/-! ## Answers -/

namespace Connection

variable {exchange : Exchange} {board : Switchboard}

/-- A call is answered with what the switchboard says. -/
theorem serve_call
    (running : exchange.board = some board) (frame : FrameId) (now : Instant) (id : UInt64)
    (what : Call) :
    ∃ after, serve exchange frame now (what.request id) =
        goOnAfterPause after frame (Hub.reply board frame now id what).1 ∧
      after.board = some (Hub.reply board frame now id what).2 := by
  cases what with
  | claim session =>
      obtain ⟨reply, after⟩ := Exchange.request_of_running running (.error .closed)
        (·.claim frame session now)
      refine ⟨_, ?_, after⟩
      cases said : (board.claim frame session now).reply <;>
        simp only [Call.request, serve, Exchange.claim, reply, said, Hub.reply]
  | join session displayName =>
      let closed : Except SwitchboardError Bool := .error .closed
      obtain ⟨reply, after⟩ := Exchange.request_of_running running closed
        fun board => (board.join frame session displayName now).map .ok
      refine ⟨_, ?_, after⟩
      simp only [closed] at reply
      simp only [Call.request, serve, Exchange.join, reply, Hub.reply]
      rfl
  | describe session =>
      refine ⟨exchange, ?_, running⟩
      simp only [Call.request, serve, Exchange.describe, running, Hub.reply]
      rfl

/-- A call whose line is too long is not carried out. -/
theorem handle_call
    (running : exchange.board = some board) (max : Nat) (frame : FrameId) (now : Instant)
    (id : UInt64) (what : Call) :
    let handled := handle exchange max now (.serving frame)
      (LineReader.seen max (FrameMessage.ofRequest (what.request id)).toJson)
    handled = goOn exchange frame [tooLong max] ∨
      ∃ after, handled = goOnAfterPause after frame (Hub.reply board frame now id what).1 ∧
        after.board = some (Hub.reply board frame now id what).2 := by
  unfold LineReader.seen
  split
  · rename_i short
    rw [handle_serving (Hub.isPortable_call id what) short]
    exact .inr (serve_call running frame now id what)
  · exact .inl rfl

/-- Whatever is read from the line of a packet, no session changes. -/
theorem handle_send
    (running : exchange.board = some board) (max : Nat) (frame : FrameId) (now : Instant)
    (route : Route) (packet : Packet) :
    ∃ after messages,
      handle exchange max now (.serving frame)
          (LineReader.seen max (FrameMessage.ofRequest (.send route packet)).toJson) =
        goOn after frame messages ∧ after.board = some board := by
  unfold LineReader.seen
  split
  · simp only [handle]
    let line := (FrameMessage.ofRequest (.send route packet)).toJson.compact
    cases read : Line.parseFrame line max with
    | ok found =>
        rcases Line.send_of_parseFrame rfl read with ⟨_, data, sends⟩
        simp only [sends, serve]
        exact ⟨_, _, rfl, (Exchange.request_of_running running () (·.deliver route _)).2⟩
    | error error =>
        cases error <;> exact ⟨exchange, _, rfl, running⟩
  · exact ⟨exchange, _, rfl, running⟩

/-- A farewell ends the connection, unless its line is too long. -/
theorem handle_disconnect
    (exchange : Exchange) (max : Nat) (frame : FrameId) (now : Instant) :
    let handled := handle exchange max now (.serving frame)
      (LineReader.seen max (FrameMessage.ofRequest .disconnect).toJson)
    handled = goOn exchange frame [tooLong max] ∨ handled = release exchange frame := by
  unfold LineReader.seen
  split
  · rename_i short
    have plain : (FrameMessage.ofRequest .disconnect).IsPortable := nofun
    rw [handle_serving plain short]
    exact .inr rfl
  · exact .inl rfl

/-- A greeting whose line is too long is not answered. -/
theorem handle_connect
    (exchange : Exchange) (max : Nat) (deadline : Nat) (now : Instant)
    (displayName : Option String) :
    let handled := handle exchange max now (.greeting deadline)
      (LineReader.seen max (FrameMessage.ofRequest (.connect displayName)).toJson)
    handled = hangUp exchange ∨
      handled = greet exchange (.ofRequest (.connect displayName)) := by
  unfold LineReader.seen
  split
  · rename_i short
    have plain : (FrameMessage.ofRequest (.connect displayName)).IsPortable := nofun
    rw [handle_greeting plain short]
    exact .inr rfl
  · exact .inl rfl

end Connection

/-! ## Lines -/

namespace Hub

variable {hub : Hub}

/-- Writing the packets that wait changes nothing but the inboxes. -/
theorem forward_deliveries (hub : Hub) :
    ∃ exchange deliveries, hub.forward = ({ hub with exchange }, deliveries) ∧
      exchange.board = hub.exchange.board ∧ Output.AreDeliveries deliveries := by
  refine ⟨hub.forward.1.exchange, hub.forward.2, rfl, hub.board_forward, ?_⟩
  intro output inside
  obtain ⟨connection, _, _, packet, _, _, rfl⟩ := mem_forward inside
  exact ⟨connection.number, packet, rfl⟩

/-- An answer that lets a connection go on changes nothing but the exchange. -/
theorem receive_goOn
    (running : hub.stopping = false) (apart : (hub.connections.map (·.number)).Nodup)
    {entry : Nat × FrameId} (inside : serving hub.maxMessageSize entry ∈ hub.connections)
    {now : Instant} {message : FrameMessage} {answer : Answer}
    (handled : Connection.handle hub.exchange hub.maxMessageSize now (.serving entry.2)
      (LineReader.seen hub.maxMessageSize message.toJson) = answer)
    (goesOn : answer.stage = .serving entry.2) :
    ∃ exchange deliveries,
      hub.receive entry.1 now (Line.ofFrame message).toUTF8.toList =
        ({ hub with exchange }, answer.messages.map (Output.write entry.1) ++ deliveries) ∧
      exchange.board = answer.exchange.board ∧ Output.AreDeliveries deliveries := by
  have received : hub.receive entry.1 now (Line.ofFrame message).toUTF8.toList =
      let settled := hub.settle (serving hub.maxMessageSize entry) answer
      (settled.1.forward.1, settled.2 ++ settled.1.forward.2) := by
    rw [← handled]
    exact receive_line apart inside nofun now message
  have settled := settle_serving running apart inside goesOn
  rcases forward_deliveries { hub with exchange := answer.exchange } with
    ⟨first, early, forwarded, same, plain⟩
  by_cases pauses : answer.pauses = true
  · simp only [pauses, if_true, forwarded] at settled
    rcases forward_deliveries { hub with exchange := first } with
      ⟨second, late, again, still, plainToo⟩
    refine ⟨second, early ++ late, ?_, still.trans same, ?_⟩
    · simp only [received, settled, again, List.append_assoc]
    · exact List.forall_mem_append.mpr ⟨plain, plainToo⟩
  · simp only [pauses, Bool.false_eq_true, if_false] at settled
    refine ⟨first, early, ?_, same, plain⟩
    simp only [received, settled, forwarded]

/-- An answer that ends a connection closes it behind its last message. -/
theorem receive_ended
    (apart : (hub.connections.map (·.number)).Nodup) {number : Nat} {stage : Stage}
    (inside : ⟨number, .start hub.maxMessageSize, stage⟩ ∈ hub.connections)
    (alive : stage ≠ .ended) {now : Instant} {message : FrameMessage} {answer : Answer}
    (handled : Connection.handle hub.exchange hub.maxMessageSize now stage
      (LineReader.seen hub.maxMessageSize message.toJson) = answer)
    (ends : answer.stage = .ended) :
    ∃ exchange deliveries,
      hub.receive number now (Line.ofFrame message).toUTF8.toList =
        ({ hub with
            exchange
            connections := hub.connections.filter fun connection => connection.number != number },
          answer.messages.map (Output.write number) ++ .close number :: deliveries) ∧
      exchange.board = answer.exchange.board ∧ Output.AreDeliveries deliveries := by
  have received := receive_line apart inside alive now message
  rw [handled] at received
  rcases forward_deliveries
      { hub with
        exchange := answer.exchange
        connections := hub.connections.filter fun connection => connection.number != number } with
    ⟨exchange, deliveries, forwarded, same, plain⟩
  refine ⟨exchange, deliveries, ?_, same, plain⟩
  rw [received]
  simp only [settle, ends, setConnection, forwarded, List.append_assoc, List.singleton_append]

/-! ## Greetings -/

/-- What a hub makes of the first line of the connection that it takes in next. -/
def greets (hub : Hub) (now : Instant) (displayName : Option String) : Answer :=
  Connection.handle hub.exchange hub.maxMessageSize now
    (.greeting (hub.clock + handshakeTimeout))
    (LineReader.seen hub.maxMessageSize (FrameMessage.ofRequest (.connect displayName)).toJson)

section Greeting

variable (apart : (hub.connections.map (·.number)).Nodup)
  (fresh : ∀ connection ∈ hub.connections, connection.number ≠ hub.nextNumber)

include apart fresh

theorem apart_accepting : (hub.accepting.connections.map (·.number)).Nodup :=
  Keyed.apart_append.mpr ⟨apart, fresh⟩

/-- A visitor whose connection ends leaves the hub with the connections that were there before. -/
theorem receive_turnedAway
    {displayName : Option String} {now : Instant}
    (ends : (hub.greets now displayName).stage = .ended) :
    ∃ exchange deliveries,
      hub.accepting.receive hub.nextNumber now (SocketLink.greeting displayName).toUTF8.toList =
        ({ hub with exchange, nextNumber := hub.nextNumber + 1 },
          (hub.greets now displayName).messages.map (Output.write hub.nextNumber) ++
            .close hub.nextNumber :: deliveries) ∧
      exchange.board = (hub.greets now displayName).exchange.board ∧
      Output.AreDeliveries deliveries := by
  have inside : hub.accepted ∈ hub.accepting.connections :=
    List.mem_append_right _ (List.mem_singleton_self _)
  have others : (hub.accepting.connections.filter fun connection =>
      connection.number != hub.nextNumber) = hub.connections := by
    have old : (hub.connections.filter fun connection =>
        connection.number != hub.nextNumber) = hub.connections := by
      rw [List.filter_eq_self]
      intro connection known
      simpa using fresh connection known
    simp [accepting, accepted, old]
  rcases receive_ended (apart_accepting apart fresh) inside (by rintro ⟨⟩) rfl ends with
    ⟨exchange, deliveries, received, same, plain⟩
  rw [others] at received
  exact ⟨exchange, deliveries, received, same, plain⟩

/-- The connection of a frame that is taken in serves it. -/
theorem receive_admitted
    (running : hub.stopping = false) {displayName : Option String} {now : Instant}
    {exchange : Exchange} {frame : FrameId}
    (goesOn : hub.greets now displayName = Connection.goOn exchange frame [.accept frame]) :
    ∃ left deliveries,
      hub.accepting.receive hub.nextNumber now (SocketLink.greeting displayName).toUTF8.toList =
        ({ hub with
            exchange := left
            connections :=
              hub.connections ++ [serving hub.maxMessageSize (hub.nextNumber, frame)]
            nextNumber := hub.nextNumber + 1 },
          .write hub.nextNumber (.accept frame) :: deliveries) ∧
      left.board = exchange.board ∧ Output.AreDeliveries deliveries := by
  have inside : hub.accepted ∈ hub.accepting.connections :=
    List.mem_append_right _ (List.mem_singleton_self _)
  let opening : Hub := { hub.accepting with exchange }
  let opened : Hub :=
    { hub with
      exchange
      connections := hub.connections ++ [serving hub.maxMessageSize (hub.nextNumber, frame)]
      nextNumber := hub.nextNumber + 1 }
  have split : opening.connections = hub.connections ++ [hub.accepted] := rfl
  have set : opening.setConnection { hub.accepted with stage := .serving frame } = opened :=
    opening.setConnection_append split rfl fresh rfl
  have settled : hub.accepting.settle hub.accepted (hub.greets now displayName) =
      (opened, [.write hub.nextNumber (.accept frame)]) := by
    rw [goesOn, hub.accepting.settle_goOn running]
    exact congrArg (fun hub => (hub, [Output.write _ (.accept frame)])) set
  have received : hub.accepting.receive hub.nextNumber now
      (SocketLink.greeting displayName).toUTF8.toList =
        let settled := hub.accepting.settle hub.accepted (hub.greets now displayName)
        (settled.1.forward.1, settled.2 ++ settled.1.forward.2) :=
    receive_line (apart_accepting apart fresh) inside nofun now (.ofRequest (.connect displayName))
  rcases forward_deliveries opened with ⟨left, deliveries, forwarded, same, plain⟩
  refine ⟨left, deliveries, ?_, same, plain⟩
  simp only [received, settled, forwarded]
  rfl

/-- A visitor is turned away, or serves the frame that the switchboard has taken in. -/
theorem receive_greeting
    (running : hub.stopping = false) {board : Switchboard}
    (runs : hub.exchange.board = some board) (displayName : Option String) (now : Instant) :
    let received :=
      hub.accepting.receive hub.nextNumber now (SocketLink.greeting displayName).toUTF8.toList
    (∃ exchange messages deliveries,
      received =
          ({ hub with exchange, nextNumber := hub.nextNumber + 1 },
            messages.map (Output.write hub.nextNumber) ++ .close hub.nextNumber :: deliveries) ∧
        (messages = [] ∨ ∃ reason, messages = [.reject reason]) ∧
        exchange.board = some board ∧ Output.AreDeliveries deliveries) ∨
    ∃ frame exchange deliveries,
      received =
          ({ hub with
              exchange
              connections :=
                hub.connections ++ [serving hub.maxMessageSize (hub.nextNumber, frame)]
              nextNumber := hub.nextNumber + 1 },
            .write hub.nextNumber (.accept frame) :: deliveries) ∧
        board.register.reply = .ok frame ∧ exchange.board = some board.register.board ∧
        Output.AreDeliveries deliveries := by
  have answered : hub.greets now displayName = Connection.hangUp hub.exchange ∨
      hub.greets now displayName =
        Connection.greet hub.exchange (.ofRequest (.connect displayName)) :=
    Connection.handle_connect _ _ _ _ _
  rw [greet_connect] at answered
  obtain ⟨reply, after⟩ := Exchange.request_of_running runs (.error .closed) (·.register)
  have asked : hub.exchange.register = (board.register.reply, hub.exchange.register.2) :=
    Prod.ext reply rfl
  rcases answered with hangsUp | answers
  · rcases receive_turnedAway apart fresh (congrArg Answer.stage hangsUp) with
      ⟨exchange, deliveries, received, same, plain⟩
    rw [hangsUp] at received same
    exact .inl ⟨exchange, [], deliveries, received, .inl rfl, same.trans runs, plain⟩
  · cases said : board.register.reply with
    | error error =>
        rw [asked, said] at answers
        rcases receive_turnedAway apart fresh (congrArg Answer.stage answers) with
          ⟨exchange, deliveries, received, same, plain⟩
        rw [answers] at received same
        rw [board.board_of_register_refused said] at after
        exact .inl ⟨exchange, [.reject error.message], deliveries, received, .inr ⟨_, rfl⟩,
          same.trans after, plain⟩
    | ok frame =>
        rw [asked, said] at answers
        rcases receive_admitted apart fresh running answers with
          ⟨left, deliveries, received, same, plain⟩
        exact .inr ⟨frame, left, deliveries, received, rfl, same.trans after, plain⟩

end Greeting

end Hub

end SessionBus
