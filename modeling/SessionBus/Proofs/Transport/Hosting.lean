import SessionBus.Proofs.Transport.Honest

/-!
# What a frame gives the switchboard

A frame connects to a hub and writes its requests, a line for each.  With every line the hub gives
the switchboard at most one command: that of the request, if the line is not too long and can be
read.  A line from which the hub does not take a request is answered without the number of any
request, and the connection goes on.
-/

namespace SessionBus.Hub

/-- The line of a request, as it comes to a hub. -/
def lineInput (number : Nat) (now : Instant) (request : Request) : Input :=
  .bytes number now (Line.ofFrame (.ofRequest request)).toUTF8.toList

/-- What comes to a hub from a frame that connects and writes some requests. -/
def conversation (number : Nat) (now : Instant) (requests : List Request) : List Input :=
  .connection :: requests.map (lineInput number now)

/-- The commands that the switchboard is given with all that comes, in order. -/
def given (hub : Hub) (inputs : List Input) : List (Instant × Command) :=
  (hub.history inputs).flatMap fun moment => moment.before.commandsFor moment.act

/-! ## One thing after the other -/

theorem takeAll_append (hub : Hub) (first second : List Input) :
    hub.takeAll (first ++ second) =
      (((hub.takeAll first).1.takeAll second).1,
        (hub.takeAll first).2 ++ ((hub.takeAll first).1.takeAll second).2) := by
  induction first generalizing hub with
  | nil =>
      rfl
  | cons input rest ih =>
      simp only [List.cons_append, takeAll, ih, List.append_assoc]

theorem given_append (hub : Hub) (first second : List Input) :
    hub.given (first ++ second) = hub.given first ++ (hub.takeAll first).1.given second := by
  have along : hub.history (first ++ second) =
      hub.history first ++ (hub.takeAll first).1.history second := by
    induction first generalizing hub with
    | nil =>
        rfl
    | cons input rest ih =>
        simp only [List.cons_append, history, ih, List.append_assoc, takeAll]
  rw [given, along, List.flatMap_append]
  rfl

variable {hub : Hub} {max number : Nat} {frame : FrameId} {board : Switchboard}

/-- A line gives the switchboard the command of what the hub finds in it. -/
theorem given_line
    (running : hub.stopping = false) (apart : (hub.connections.map (·.number)).Nodup)
    {stage : Stage} (inside : ⟨number, .start hub.maxMessageSize, stage⟩ ∈ hub.connections)
    (alive : stage ≠ .ended) (now : Instant) (request : Request) :
    hub.given [lineInput number now request] =
      (Connection.command? hub.maxMessageSize stage
        (LineReader.seen hub.maxMessageSize (FrameMessage.ofRequest request).toJson)).toList.map
          (now, ·) := by
  have found : hub.connection? number = some ⟨number, .start hub.maxMessageSize, stage⟩ :=
    connection?_of_mem apart inside
  have same : hub.setConnection ⟨number, .start hub.maxMessageSize, stage⟩ = hub :=
    hub.setConnection_of_mem apart inside alive
  have fed : (LineReader.start hub.maxMessageSize).feed
      (Line.ofFrame (.ofRequest request)).toUTF8.toList =
        ([LineReader.seen hub.maxMessageSize (FrameMessage.ofRequest request).toJson],
          .start hub.maxMessageSize) :=
    LineReader.feed_line _ hub.maxMessageSize
  have silent : ∀ (hub : Hub) (acts : List Act), (∀ act ∈ acts, act = .forward) →
      (hub.run acts).flatMap (fun moment => moment.before.commandsFor moment.act) = [] := by
    intro hub acts
    induction acts generalizing hub with
    | nil =>
        exact fun _ => rfl
    | cons act rest ih =>
        intro writes
        rw [List.forall_mem_cons] at writes
        rw [run, List.flatMap_cons, ih _ writes.2, writes.1]
        rfl
  simp only [given, history, lineInput, actsFor, found, fed, same, hearings, List.append_nil,
    List.cons_append, run, List.flatMap_cons, perform]
  rw [silent _ _ (by intro act inside; split at inside <;> simp_all)]
  simp only [commandsFor, found, dismissed?_of_running running, Option.toList_none, List.map_nil,
    List.append_nil, List.nil_append]

/-! ## A connection that serves a frame -/

/-- The hub runs a switchboard and serves a frame on a connection. -/
structure Hosts
    (hub : Hub) (max number : Nat) (frame : FrameId) (board : Switchboard) : Prop where
  running : hub.stopping = false
  limit : hub.maxMessageSize = max
  apart : (hub.connections.map (·.number)).Nodup
  serves : serving max (number, frame) ∈ hub.connections
  runs : hub.exchange.board = some board

/-- What the hub answers to a request of the frame. -/
def answers (hub : Hub) (frame : FrameId) (now : Instant) (request : Request) : Answer :=
  Connection.handle hub.exchange hub.maxMessageSize now (.serving frame)
    (LineReader.seen hub.maxMessageSize (FrameMessage.ofRequest request).toJson)

/-- The command that the hub gives the switchboard for a request of a frame. -/
def hears? (max : Nat) (frame : FrameId) (request : Request) : Option Command :=
  Connection.command? max (.serving frame)
    (LineReader.seen max (FrameMessage.ofRequest request).toJson)

/-- The connection goes on after every request but a farewell. -/
theorem stage_answers
    (hub : Hub) (frame : FrameId) (now : Instant) {request : Request}
    (stays : request ≠ .disconnect) : (hub.answers frame now request).stage = .serving frame := by
  rw [answers, Connection.stage_handle_serving]
  have goesOn : Connection.isFarewell hub.maxMessageSize
      (LineReader.seen hub.maxMessageSize (FrameMessage.ofRequest request).toJson) = false := by
    unfold LineReader.seen
    split
    · simp only [Connection.isFarewell]
      cases read : Line.parseFrame (FrameMessage.ofRequest request).toJson.compact
          hub.maxMessageSize with
      | error error =>
          rfl
      | ok found =>
          simpa using Line.request_ne_disconnect read stays
    · rfl
  rw [goesOn]
  rfl

/-- The hub answers a request and goes on to serve the frame. -/
theorem Hosts.line
    (hosts : hub.Hosts max number frame board) (now : Instant) {request : Request}
    (stays : request ≠ .disconnect) {after : Switchboard}
    (runs : (hub.answers frame now request).exchange.board = some after) :
    ∃ deliveries,
      (hub.take (lineInput number now request)).2 =
          (hub.answers frame now request).messages.map (Output.write number) ++ deliveries ∧
        Output.AreDeliveries deliveries ∧
        (hub.take (lineInput number now request)).1.Hosts max number frame after ∧
        hub.given [lineInput number now request] = (hears? max frame request).toList.map (now, ·) := by
  obtain ⟨running, rfl, apart, serves, _⟩ := hosts
  rcases receive_goOn running apart serves rfl
    (hub.stage_answers frame now stays) with ⟨exchange, deliveries, received, same, plain⟩
  have taken : hub.take (lineInput number now request) = _ := received
  refine ⟨deliveries, ?_, plain, ?_, ?_⟩
  · rw [taken]
    rfl
  · rw [taken]
    exact ⟨running, rfl, apart, serves, same.trans runs⟩
  · exact given_line running apart serves nofun now request

/-- The command of a call. -/
def commandOf (frame : FrameId) : Call → Command
  | .claim session => .claim frame session
  | .join session displayName => .join frame session displayName
  | .describe session => .describe session

/-- A call that fits into a line of the hub is given to the switchboard and answered. -/
theorem Hosts.call_of_short
    (hosts : hub.Hosts max number frame board) (now : Instant) (id : UInt64) {what : Call}
    (short : (FrameMessage.ofRequest (what.request id)).toJson.compact.utf8ByteSize ≤ max) :
    let input := lineInput number now (what.request id)
    ∃ deliveries,
      (hub.take input).2 = .write number (reply board frame now id what).1 :: deliveries ∧
        Output.AreDeliveries deliveries ∧
        (hub.take input).1.Hosts max number frame (reply board frame now id what).2 ∧
        hub.given [input] = [(now, commandOf frame what)] := by
  intro input
  have stays : what.request id ≠ .disconnect := by
    cases what <;> nofun
  have fits : (FrameMessage.ofRequest (what.request id)).toJson.compact.utf8ByteSize ≤
      hub.maxMessageSize := hosts.limit ▸ short
  obtain ⟨exchange, answered, runs⟩ := Connection.serve_call hosts.runs frame now id what
  have answer : hub.answers frame now (what.request id) =
      Connection.goOnAfterPause exchange frame (reply board frame now id what).1 := by
    rw [answers, LineReader.seen, if_pos fits,
      Connection.handle_serving (isPortable_call id what) fits]
    exact answered
  have heard : hears? max frame (what.request id) = some (commandOf frame what) := by
    rw [hears?, LineReader.seen, if_pos short]
    simp only [Connection.command?, Connection.parseFrame_compact (isPortable_call id what) short]
    cases what <;> rfl
  have kept : (hub.answers frame now (what.request id)).exchange.board =
      some (reply board frame now id what).2 := by
    rw [answer]
    exact runs
  obtain ⟨deliveries, written, plain, left, asked⟩ := hosts.line now stays kept
  rw [answer] at written
  rw [heard] at asked
  exact ⟨deliveries, written, plain, left, asked⟩

/-- A call that does not is reported as too long. -/
theorem Hosts.call_of_long
    (hosts : hub.Hosts max number frame board) (now : Instant) (id : UInt64) {what : Call}
    (long : max < (FrameMessage.ofRequest (what.request id)).toJson.compact.utf8ByteSize) :
    let input := lineInput number now (what.request id)
    ∃ deliveries,
      (hub.take input).2 = .write number (Connection.tooLong max) :: deliveries ∧
        Output.AreDeliveries deliveries := by
  intro input
  have stays : what.request id ≠ .disconnect := by
    cases what <;> nofun
  have answer : hub.answers frame now (what.request id) =
      Connection.goOn hub.exchange frame [Connection.tooLong max] := by
    rw [answers, hosts.limit, LineReader.seen, if_neg (Nat.not_le_of_lt long)]
    rfl
  have kept : (hub.answers frame now (what.request id)).exchange.board = some board := by
    rw [answer]
    exact hosts.runs
  obtain ⟨deliveries, written, plain, _⟩ := hosts.line now stays kept
  rw [answer] at written
  exact ⟨deliveries, written, plain⟩

/-- A packet changes nothing at the switchboard, whatever the hub reads from its line. -/
theorem Hosts.send
    (hosts : hub.Hosts max number frame board) (now : Instant) (route : Route) (packet : Packet) :
    let input := lineInput number now (.send route packet)
    (hub.take input).1.Hosts max number frame board ∧
      (∃ (messages : List HubMessage) (deliveries : List Output),
        (hub.take input).2 = messages.map (Output.write number) ++ deliveries ∧
          Output.AreDeliveries deliveries) ∧
      hub.given [input] = (hears? max frame (.send route packet)).toList.map (now, ·) := by
  intro input
  obtain ⟨after, messages, handled, runs⟩ :=
    Connection.handle_send hosts.runs hub.maxMessageSize frame now route packet
  have answer : hub.answers frame now (.send route packet) =
      Connection.goOn after frame messages := handled
  have kept : (hub.answers frame now (.send route packet)).exchange.board = some board := by
    rw [answer]
    exact runs
  have stays : Request.send route packet ≠ .disconnect := nofun
  obtain ⟨deliveries, written, plain, left, asked⟩ := hosts.line now stays kept
  exact ⟨left, ⟨_, deliveries, written, plain⟩, asked⟩

/-! ## Greetings -/

/-- The hub takes a connection in and reads its first line. -/
theorem takeAll_greeting
    (running : hub.stopping = false) (displayName : Option String) (now : Instant) :
    hub.takeAll (conversation hub.nextNumber now [.connect displayName]) =
      hub.accepting.receive hub.nextNumber now (SocketLink.greeting displayName).toUTF8.toList := by
  simp only [conversation, List.map_cons, List.map_nil, takeAll, take, accept_of_running running,
    lineInput, List.nil_append, List.append_nil]
  rfl

theorem Consistent.fresh (consistent : hub.Consistent max) :
    ∀ connection ∈ hub.connections, connection.number ≠ hub.nextNumber :=
  fun connection inside => Nat.ne_of_lt (consistent.numbered connection inside)

section Greeting

variable (consistent : hub.Consistent max) (running : hub.stopping = false)
  (displayName : Option String) (now : Instant) (runs : hub.exchange.board = some board)

include consistent running runs

/-- A frame whose greeting fits into a line is taken in if the switchboard has room. -/
theorem hosts_of_greeting
    (short : (FrameMessage.ofRequest (.connect displayName)).toJson.compact.utf8ByteSize ≤ max)
    (admitted : board.register.reply = .ok frame) :
    let inputs := conversation hub.nextNumber now [.connect displayName]
    ∃ deliveries,
      (hub.takeAll inputs).2 = .write hub.nextNumber (.accept frame) :: deliveries ∧
        Output.AreDeliveries deliveries ∧
        (hub.takeAll inputs).1.Hosts max hub.nextNumber frame board.register.board ∧
        hub.given inputs = [(now, .register)] := by
  intro inputs
  obtain rfl := consistent.limit
  have plain : (FrameMessage.ofRequest (.connect displayName)).IsPortable :=
    FrameMessage.isPortable_of_plain rfl
  obtain ⟨reply, after⟩ := Exchange.request_of_running runs (.error .closed) (·.register)
  have asked : hub.exchange.register = (board.register.reply, hub.exchange.register.2) :=
    Prod.ext reply rfl
  have goesOn : hub.greets now displayName =
      Connection.goOn hub.exchange.register.2 frame [.accept frame] := by
    rw [greets, LineReader.seen, if_pos short, Connection.handle_greeting plain short,
      greet_connect, asked, admitted]
  rcases receive_admitted consistent.apart consistent.fresh running goesOn with
    ⟨left, deliveries, received, same, areDeliveries⟩
  have whole : hub.takeAll inputs = _ := (takeAll_greeting running displayName now).trans received
  have asks : hub.given inputs = [(now, .register)] := by
    have inside : hub.accepted ∈ hub.accepting.connections :=
      List.mem_append_right _ (List.mem_singleton_self _)
    have first : hub.takeAll [.connection] = (hub.accepting, []) := by
      simp only [takeAll, take, accept_of_running running, List.append_nil]
    have goesOn : hub.accepting.stopping = false := running
    have alive : hub.accepted.stage ≠ .ended := fun ended => by cases ended
    have line := given_line goesOn (apart_accepting consistent.apart consistent.fresh) inside alive
      now (.connect displayName)
    have heard : Connection.command? hub.maxMessageSize
        (.greeting (hub.clock + handshakeTimeout))
        (.line (FrameMessage.ofRequest (.connect displayName)).toJson.compact) =
          some .register := by
      simp only [Connection.command?, Connection.parseFrame_compact plain short]
      rfl
    have limit : hub.accepting.maxMessageSize = hub.maxMessageSize := rfl
    rw [limit, LineReader.seen, if_pos short, heard] at line
    have split : inputs = [.connection] ++ [lineInput hub.nextNumber now (.connect displayName)] :=
      rfl
    rw [split, given_append, first, line]
    rfl
  refine ⟨deliveries, by rw [whole], areDeliveries, ?_, asks⟩
  rw [whole]
  refine ⟨running, rfl, ?_, List.mem_append_right _ (List.mem_singleton_self _),
    same.trans after⟩
  exact Keyed.apart_append.mpr ⟨consistent.apart, consistent.fresh⟩

/-- No other greeting tells a frame its identity. -/
theorem eq_error_of_not_greeted
    (refused : max < (FrameMessage.ofRequest (.connect displayName)).toJson.compact.utf8ByteSize ∨
      ∃ error, board.register.reply = .error error) :
    ∃ error,
      SocketLink.greet (Sockets.firstLine? hub.nextNumber
        (hub.takeAll (conversation hub.nextNumber now [.connect displayName])).2) =
          .error error := by
  obtain rfl := consistent.limit
  rw [takeAll_greeting running]
  have turnedAway : (hub.greets now displayName).stage = .ended ∧
      ((hub.greets now displayName).messages = [] ∨
        ∃ reason, (hub.greets now displayName).messages = [.reject reason]) := by
    by_cases long :
        hub.maxMessageSize <
          (FrameMessage.ofRequest (.connect displayName)).toJson.compact.utf8ByteSize
    · have hangsUp : hub.greets now displayName = Connection.hangUp hub.exchange := by
        rw [greets, LineReader.seen, if_neg (Nat.not_le_of_lt long)]
        rfl
      rw [hangsUp]
      exact ⟨rfl, .inl rfl⟩
    · have short := Nat.not_lt.mp long
      have plain : (FrameMessage.ofRequest (.connect displayName)).IsPortable :=
        FrameMessage.isPortable_of_plain rfl
      rcases refused with tooLong | ⟨error, said⟩
      · exact absurd tooLong long
      · obtain ⟨reply, _⟩ := Exchange.request_of_running runs (.error .closed) (·.register)
        have asked : hub.exchange.register = (.error error, hub.exchange.register.2) :=
          Prod.ext (reply.trans said) rfl
        have answered : hub.greets now displayName =
            Connection.refuse (.reject error.message) hub.exchange.register.2 := by
          rw [greets, LineReader.seen, if_pos short, Connection.handle_greeting plain short,
            greet_connect, asked]
        rw [answered]
        exact ⟨rfl, .inr ⟨_, rfl⟩⟩
  rcases receive_turnedAway consistent.apart consistent.fresh turnedAway.1 with
    ⟨exchange, deliveries, received, _, plain⟩
  rw [received]
  exact Sockets.Loyal.eq_error_of_turnedAway turnedAway.2 plain hub.nextNumber

end Greeting

end SessionBus.Hub
