import SessionBus.Proofs.Bus.Passage
import SessionBus.Proofs.Hub.AnyLine
import SessionBus.Proofs.Message.Size
import SessionBus.Proofs.Transport.Wire

/-!
# A hub behind sockets is honest

Frames may write lines of any size and send any data, and the hub may take shorter lines than they
write.  Then requests can be lost, answers can be unreadable, and an endpoint may wait for an answer
that never comes.  But what an endpoint is told of a call is what the switchboard has decided, since
the answer carries the number of the call and no other answer is on its way.
-/

namespace SessionBus

/-! ## Links -/

/-- What comes of a call that is answered with a message.  An answer is lost if its line is too long
to be read. -/
def Call.outcome? (what : Call) (message : HubMessage) :
    Option (Except TransportError CallResult) :=
  if (Line.ofHub message).utf8ByteSize ≤ Line.maxSize then some (what.resultOf message.reread)
  else none

namespace SocketLink

variable {link : SocketLink}

/-- A packet is no greeting, whatever is read from its line. -/
theorem eq_error_of_greet_deliver (packet : Packet) :
    ∃ error, greet (some (Line.ofHub (.deliver packet))) = .error error := by
  unfold greet
  simp only
  cases read : Line.parseHub (Line.ofHub (.deliver packet)) with
  | error error =>
      exact ⟨_, rfl⟩
  | ok message =>
      rcases Line.deliver_of_parseHub read with ⟨data, rfl⟩
      exact ⟨_, rfl⟩

/-- A packet completes no call, whatever is read from its line. -/
theorem takeLine_deliver (link : SocketLink) (packet : Packet) (id : UInt64)
    (result : Except TransportError CallResult) :
    (link.takeLine (Line.ofHub (.deliver packet))).1 ≠ .completed id result := by
  unfold takeLine
  split
  · cases read : Line.parseHub (Line.ofHub (.deliver packet)) with
    | error error =>
        nofun
    | ok message =>
        rcases Line.deliver_of_parseHub read with ⟨data, rfl⟩
        nofun
  · nofun

/-- A message without the number of a call completes none. -/
theorem takeLine_unnumbered
    (link : SocketLink) {message : HubMessage} (portable : message.IsPortable)
    (unnumbered : message.request? = none) (id : UInt64)
    (result : Except TransportError CallResult) :
    (link.takeLine (Line.ofHub message)).1 ≠ .completed id result := by
  unfold takeLine
  split
  · rcases Nat.lt_or_ge Line.maxSize (Line.ofHub message).utf8ByteSize with long | short
    · rw [Line.parseHub_of_long long]
      simp
    · rw [parseHub_ofHub portable short]
      have none : message.reread.request? = none := by
        rw [← unnumbered]
        cases message <;> rfl
      simp only [take]
      split
      · simp
      · simp [none]
  · simp

/-- The answer to a call that waits completes it, if its line can be read. -/
theorem takeLine_answer
    (reading : link.reading = true) {id : UInt64} {what : Call}
    (awaits : link.waiting.lookup id = some what) {message : HubMessage}
    (plain : message.packet? = none) (numbered : message.request? = some id) :
    (link.takeLine (Line.ofHub message)).1 =
      (what.outcome? message).elim .nothing (.completed id) := by
  have portable : message.IsPortable := by
    intro packet carried
    rw [plain] at carried
    cases carried
  unfold Call.outcome?
  split
  · rename_i short
    rw [takeLine_ofHub reading portable short]
    cases message with
    | sessionClaimed | sessionJoined | sessionDescribed =>
        cases numbered
        simp only [HubMessage.reread, take, HubMessage.request?, Option.bind_some, awaits,
          Option.map_some, Option.elim_some]
    | error text request code =>
        cases numbered
        simp only [HubMessage.reread, take, HubMessage.request?, Option.bind_some, awaits,
          Option.map_some, Option.elim_some]
    | connected | rejected | deliver | pong =>
        cases numbered
  · rename_i long
    unfold takeLine
    rw [if_pos reading, Line.parseHub_of_long (Nat.lt_of_not_le long)]
    rfl

/-- A call that is sent waits for its answer, and its line is that of its request. -/
theorem start_ok
    {what : Call} {id : UInt64} {line : String} {after : SocketLink}
    (started : link.start what = (id, .ok line, after)) :
    line = what.line id ∧ after.reading = true ∧ after.waiting.lookup id = some what := by
  unfold start at started
  simp only at started
  split at started
  · rename_i reading
    split at started
    · cases started
    · rename_i text written
      cases started
      refine ⟨(line_of_lineFor written).1, reading, ?_⟩
      have absent : (link.waiting.filter fun entry => entry.1 != link.nextRequest).lookup
          link.nextRequest = none := by
        rw [List.lookup_eq_none_iff]
        intro entry inside
        simpa [bne_comm] using (List.mem_filter.mp inside).2
      rw [List.lookup_append, absent, Option.none_or]
      simp
  · cases started

theorem line_of_toOption
    {request : Request} {line : String} (written : (link.lineFor request).toOption = some line) :
    line = Line.ofFrame (.ofRequest request) := by
  cases result : link.lineFor request with
  | error error =>
      rw [result] at written
      cases written
  | ok text =>
      rw [result] at written
      cases written
      exact (line_of_lineFor result).1

theorem frame_start (link : SocketLink) (what : Call) :
    (link.start what).2.2.frame = link.frame := by
  unfold start
  simp only
  split
  · split <;> rfl
  · rfl

theorem frame_takeLine (link : SocketLink) (line : String) :
    (link.takeLine line).2.frame = link.frame := by
  unfold takeLine
  split
  · split
    · rename_i message _
      cases message <;> simp only [take] <;> split <;> rfl
    · rfl
  · rfl

end SocketLink

/-! ## Endpoints -/

namespace Endpoint

variable {endpoint : Endpoint}

/-- What the hub does leaves an endpoint its connection and its frame. -/
theorem after_identity (endpoint : Endpoint) (outputs : List Output) :
    (endpoint.after outputs).connection = endpoint.connection ∧
      (endpoint.after outputs).link.frame = endpoint.link.frame := by
  induction outputs generalizing endpoint with
  | nil =>
      exact ⟨rfl, rfl⟩
  | cons output rest ih =>
      have first : (endpoint.take output).1.connection = endpoint.connection ∧
          (endpoint.take output).1.link.frame = endpoint.link.frame := by
        rcases endpoint.take_cases output with
          ⟨connection, ⟨_, link⟩ | ⟨message, _, link⟩ | ⟨_, link⟩⟩
        · exact ⟨connection, congrArg SocketLink.frame link⟩
        · exact ⟨connection, by rw [link, SocketLink.frame_takeLine]⟩
        · exact ⟨connection, by rw [link]; rfl⟩
      rcases ih (endpoint.take output).1 with ⟨connection, frame⟩
      exact ⟨connection.trans first.1, frame.trans first.2⟩

/-- The calls that end with a message of the hub. -/
theorem take_completions (endpoint : Endpoint) (message : HubMessage) :
    (endpoint.take (.write endpoint.connection message)).2 =
      match (endpoint.link.takeLine (Line.ofHub message)).1 with
      | .completed id result => [⟨endpoint.link.frame, id, result⟩]
      | _ => [] := by
  have same := endpoint.link.frame_takeLine (Line.ofHub message)
  unfold take
  simp only [if_true]
  generalize endpoint.link.takeLine (Line.ofHub message) = taken at *
  rcases taken with ⟨_ | ⟨id, result⟩ | _, link⟩
  · rfl
  · simp only at same
    simp only [follow, Option.toList_some, same]
  · rfl

/-- A message without the number of a call ends none. -/
theorem take_unnumbered
    (endpoint : Endpoint) {message : HubMessage} (portable : message.IsPortable)
    (unnumbered : message.request? = none) :
    (endpoint.take (.write endpoint.connection message)).2 = [] := by
  rw [take_completions]
  have silent := endpoint.link.takeLine_unnumbered portable unnumbered
  generalize (endpoint.link.takeLine (Line.ofHub message)).1 = seen at *
  cases seen with
  | completed id result =>
      exact absurd rfl (silent id result)
  | packet | nothing =>
      rfl

theorem take_delivery_completions (endpoint : Endpoint) (number : Nat) (packet : Packet) :
    (endpoint.take (.write number (.deliver packet))).2 = [] := by
  by_cases own : number = endpoint.connection
  · subst own
    rw [take_completions]
    have silent := endpoint.link.takeLine_deliver packet
    generalize (endpoint.link.takeLine (Line.ofHub (.deliver packet))).1 = seen at *
    cases seen with
    | completed id result =>
        exact absurd rfl (silent id result)
    | packet | nothing =>
        rfl
  · rw [take_of_ne (show (Output.write number _).connection ≠ _ from own)]

end Endpoint

/-! ## Sockets -/

namespace Sockets

/-- The connections of all endpoints, with their frames. -/
def ends (sockets : Sockets) : List (Nat × FrameId) :=
  sockets.endpoints.map fun endpoint => (endpoint.connection, endpoint.link.frame)

theorem ends_carry (sockets : Sockets) (outputs : List Output) :
    (sockets.carry outputs).1.ends = sockets.ends := by
  rw [carry_endpoints]
  simp only [ends, List.map_map]
  apply List.map_congr_left
  intro endpoint _
  rcases endpoint.after_identity outputs with ⟨connection, frame⟩
  exact Prod.ext connection frame

theorem hub_carry (sockets : Sockets) (outputs : List Output) :
    (sockets.carry outputs).1.hub = sockets.hub := by
  rw [carry_endpoints]

/-- What the hub does may be handed on output by output. -/
theorem completions_cons (sockets : Sockets) (output : Output) (rest : List Output) :
    (sockets.carry (output :: rest)).2 =
      (sockets.carry [output]).2 ++ ((sockets.carry [output]).1.carry rest).2 := by
  have along : ∀ (outputs : List Output) (sockets : Sockets) (completed : List Completion),
      (outputs.foldl
        (fun carried output =>
          let taken := carried.1.endpoints.map fun endpoint => endpoint.take output
          ({ carried.1 with endpoints := taken.map (·.1) }, carried.2 ++ taken.flatMap (·.2)))
        (sockets, completed)).2 = completed ++ (sockets.carry outputs).2 := by
    intro outputs
    induction outputs with
    | nil =>
        exact fun _ completed => (List.append_nil completed).symm
    | cons output rest ih =>
        intro sockets completed
        have whole : (sockets.carry (output :: rest)).2 = _ := ih _ _
        rw [List.foldl_cons, ih, whole]
        simp only [List.nil_append, List.append_assoc]
  rw [carry, List.foldl_cons]
  exact along rest _ _

/-- No call ends with packets. -/
theorem completions_deliveries
    {deliveries : List Output} (plain : Output.AreDeliveries deliveries) (sockets : Sockets) :
    (sockets.carry deliveries).2 = [] := by
  induction deliveries generalizing sockets with
  | nil =>
      rfl
  | cons output rest ih =>
      have others : Output.AreDeliveries rest :=
        fun other inside => plain other (List.mem_cons_of_mem _ inside)
      rw [completions_cons, ih others, List.append_nil]
      rcases plain output List.mem_cons_self with ⟨number, packet, rfl⟩
      simp [carry, Endpoint.take_delivery_completions]

section Answers

variable {sockets : Sockets} (apart : (sockets.endpoints.map (·.link.frame)).Nodup)
  (numbers : (sockets.endpoints.map (·.connection)).Nodup) {endpoint : Endpoint}
  (inside : endpoint ∈ sockets.endpoints) (hub : Hub) {deliveries : List Output}
  (plain : Output.AreDeliveries deliveries)

include apart numbers inside plain

/-- The endpoint on whose connection an answer is written takes it, and no other does. -/
theorem completions_answer (message : HubMessage) :
    (({ sockets with hub } : Sockets).carry
        (.write endpoint.connection message :: deliveries)).2 =
      (endpoint.take (.write endpoint.connection message)).2 := by
  rcases exists_located apart numbers inside with ⟨before, behind, located⟩
  rw [completions_cons, completions_deliveries plain, List.append_nil,
    (located.withHub hub).carry rfl]

/-- What an endpoint is told of a call that waits when the hub answers it. -/
theorem told_answer
    (reading : endpoint.link.reading = true) {id : UInt64} {what : Call}
    (awaits : endpoint.link.waiting.lookup id = some what) {message : HubMessage}
    (answers : message.packet? = none) (numbered : message.request? = some id) :
    ((({ sockets with hub } : Sockets).carry
        (.write endpoint.connection message :: deliveries)).2.find? fun completion =>
          completion.frame == endpoint.link.frame && completion.request == id).map (·.result) =
      what.outcome? message := by
  rw [completions_answer apart numbers inside hub plain, Endpoint.take_completions,
    SocketLink.takeLine_answer reading awaits answers numbered]
  cases what.outcome? message <;> simp

end Answers

/-! ## Between demands -/

/-- The hub runs the switchboard, and every frame that was taken in has one endpoint, whose
connection serves it for as long as it is there. -/
structure Loyal (sockets : Sockets) (board : Switchboard) (known : List FrameId) : Prop where
  running : sockets.hub.stopping = false
  runs : sockets.hub.exchange.board = some board
  apart : (sockets.hub.connections.map (·.number)).Nodup
  given : ∀ connection ∈ sockets.hub.connections, connection.number < sockets.hub.nextNumber
  frames : sockets.ends.map (·.2) = known
  once : known.Nodup
  numbers : (sockets.ends.map (·.1)).Nodup
  taken : ∀ entry ∈ sockets.ends, entry.1 < sockets.hub.nextNumber
  serves :
    ∀ entry ∈ sockets.ends, ∀ connection ∈ sockets.hub.connections,
      connection.number = entry.1 → connection = Hub.serving sockets.hub.maxMessageSize entry

namespace Loyal

variable {sockets : Sockets} {board : Switchboard} {known : List FrameId}

/-- The switchboard may change and connections may end, as long as the endpoints keep theirs. -/
theorem later
    (loyal : sockets.Loyal board known) {after : Sockets} (ends : after.ends = sockets.ends)
    {exchange : Exchange} {connections : List Connection} {nextNumber : Nat}
    (hub : after.hub = { sockets.hub with exchange, connections, nextNumber })
    (fewer : connections.Sublist sockets.hub.connections)
    (next : sockets.hub.nextNumber ≤ nextNumber) {board' : Switchboard}
    (runs : exchange.board = some board') : after.Loyal board' known where
  running := by
    rw [hub]
    exact loyal.running
  runs := by
    rw [hub]
    exact runs
  apart := by
    rw [hub]
    exact (fewer.map _).nodup loyal.apart
  given := by
    rw [hub]
    exact fun connection inside =>
      Nat.lt_of_lt_of_le (loyal.given connection (fewer.subset inside)) next
  frames := by
    rw [ends]
    exact loyal.frames
  once := loyal.once
  numbers := by
    rw [ends]
    exact loyal.numbers
  taken := by
    rw [ends, hub]
    exact fun entry inside => Nat.lt_of_lt_of_le (loyal.taken entry inside) next
  serves := by
    rw [ends, hub]
    exact fun entry inside connection present =>
      loyal.serves entry inside connection (fewer.subset present)

/-- Handing on what the hub has done keeps everything in its place. -/
theorem carried
    (loyal : sockets.Loyal board known) (outputs : List Output) {exchange : Exchange}
    {connections : List Connection} (fewer : connections.Sublist sockets.hub.connections)
    {board' : Switchboard} (runs : exchange.board = some board') :
    (({ sockets with hub := { sockets.hub with exchange, connections } } : Sockets).carry
      outputs).1.Loyal board' known := by
  refine loyal.later ?_ ?_ fewer (Nat.le_refl _) runs
  · exact ends_carry _ _
  · exact hub_carry _ _

/-- Endpoints may change as long as they keep their connections. -/
theorem sameHub
    (loyal : sockets.Loyal board known) {after : Sockets} (ends : after.ends = sockets.ends)
    (hub : after.hub = sockets.hub) : after.Loyal board known :=
  loyal.later ends hub (.refl _) (Nat.le_refl _) loyal.runs

theorem endpointsApart (loyal : sockets.Loyal board known) :
    (sockets.endpoints.map (·.link.frame)).Nodup ∧
      (sockets.endpoints.map (·.connection)).Nodup := by
  have frames := loyal.once
  have numbers := loyal.numbers
  rw [← loyal.frames, ends, List.map_map] at frames
  rw [ends, List.map_map] at numbers
  exact ⟨frames, numbers⟩

/-! ## Endpoints -/

theorem endpoint?_eq_some
    {frame : FrameId} {endpoint : Endpoint} (found : sockets.endpoint? frame = some endpoint) :
    endpoint ∈ sockets.endpoints ∧ endpoint.link.frame = frame :=
  ⟨List.mem_of_find?_eq_some found, by simpa using List.find?_some found⟩

/-- The endpoint of a frame may change as long as it keeps its connection. -/
theorem setEndpoint
    (loyal : sockets.Loyal board known) {endpoint : Endpoint}
    (inside : endpoint ∈ sockets.endpoints) (changed : Endpoint)
    (frame : changed.link.frame = endpoint.link.frame)
    (connection : changed.connection = endpoint.connection) :
    (sockets.setEndpoint changed).Loyal board known ∧
      changed ∈ (sockets.setEndpoint changed).endpoints := by
  constructor
  · refine loyal.sameHub ?_ ?_
    · unfold ends Sockets.setEndpoint
      rw [List.map_map]
      apply List.map_congr_left
      intro other present
      simp only [Function.comp_def]
      split
      · rename_i own
        have same : other = endpoint :=
          Keyed.eq_of_mem loyal.endpointsApart.1 present inside (own.trans frame)
        rw [same, frame, connection]
      · rfl
    · rfl
  · exact List.mem_map.mpr ⟨endpoint, inside, if_pos frame.symm⟩

/-! ## Lines -/

/-- The connection of an endpoint has ended, or serves its frame. -/
theorem connection_cases
    (loyal : sockets.Loyal board known) {endpoint : Endpoint}
    (inside : endpoint ∈ sockets.endpoints) :
    sockets.hub.connection? endpoint.connection = none ∨
      Hub.serving sockets.hub.maxMessageSize (endpoint.connection, endpoint.link.frame) ∈
        sockets.hub.connections := by
  cases found : sockets.hub.connection? endpoint.connection with
  | none =>
      exact .inl rfl
  | some connection =>
      have present := List.mem_of_find?_eq_some found
      have number : connection.number = endpoint.connection := by
        simpa using List.find?_some found
      have entry : (endpoint.connection, endpoint.link.frame) ∈ sockets.ends :=
        List.mem_map_of_mem inside
      rw [← loyal.serves _ entry connection present number]
      exact .inr present

theorem transmit_absent
    {number : Nat} (absent : sockets.hub.connection? number = none) (now : Instant)
    (line : String) : sockets.transmit number now line = (sockets, []) := by
  unfold Sockets.transmit Hub.receive
  rw [absent]
  rfl

/-- A line is answered, and its connection goes on. -/
theorem transmit_goOn
    (loyal : sockets.Loyal board known) {endpoint : Endpoint}
    (serving : Hub.serving sockets.hub.maxMessageSize
      (endpoint.connection, endpoint.link.frame) ∈ sockets.hub.connections)
    {now : Instant} {message : FrameMessage} {answer : Answer}
    (handled : Connection.handle sockets.hub.exchange sockets.hub.maxMessageSize now
      (.serving endpoint.link.frame)
      (LineReader.seen sockets.hub.maxMessageSize message.toJson) = answer)
    (goesOn : answer.stage = .serving endpoint.link.frame) {board' : Switchboard}
    (runs : answer.exchange.board = some board') :
    ∃ hub deliveries,
      sockets.transmit endpoint.connection now (Line.ofFrame message) =
        ({ sockets with hub } : Sockets).carry
          (answer.messages.map (Output.write endpoint.connection) ++ deliveries) ∧
      Output.AreDeliveries deliveries ∧
      (sockets.transmit endpoint.connection now (Line.ofFrame message)).1.Loyal board' known := by
  rcases Hub.receive_goOn loyal.running loyal.apart serving handled goesOn with
    ⟨exchange, deliveries, received, same, plain⟩
  have sent : sockets.transmit endpoint.connection now (Line.ofFrame message) =
      ({ sockets with hub := { sockets.hub with exchange } } : Sockets).carry
        (answer.messages.map (Output.write endpoint.connection) ++ deliveries) := by
    simp only [Sockets.transmit, received]
  refine ⟨_, deliveries, sent, plain, ?_⟩
  rw [sent]
  exact loyal.carried _ (.refl _) (same.trans runs)

/-- A line ends its connection. -/
theorem transmit_ended
    (loyal : sockets.Loyal board known) {endpoint : Endpoint}
    (serving : Hub.serving sockets.hub.maxMessageSize
      (endpoint.connection, endpoint.link.frame) ∈ sockets.hub.connections)
    {now : Instant} {message : FrameMessage} {answer : Answer}
    (handled : Connection.handle sockets.hub.exchange sockets.hub.maxMessageSize now
      (.serving endpoint.link.frame)
      (LineReader.seen sockets.hub.maxMessageSize message.toJson) = answer)
    (ended : answer.stage = .ended) {board' : Switchboard}
    (runs : answer.exchange.board = some board') :
    (sockets.transmit endpoint.connection now (Line.ofFrame message)).1.Loyal board' known := by
  rcases Hub.receive_ended loyal.apart serving nofun handled ended with
    ⟨exchange, deliveries, received, same, plain⟩
  simp only [Sockets.transmit, received]
  exact loyal.carried _ List.filter_sublist (same.trans runs)

/-! ## Demands -/

theorem collect (loyal : sockets.Loyal board known) (frame : FrameId) :
    (sockets.collect frame).2.Loyal board known := by
  unfold Sockets.collect
  cases found : sockets.endpoint? frame with
  | none =>
      exact loyal
  | some endpoint =>
      let emptied : Endpoint := { endpoint with inbound := [] }
      exact (loyal.setEndpoint (endpoint?_eq_some found).1 emptied rfl rfl).1

/-- The frames of the hub's own process may use the exchange as well. -/
theorem resume
    (loyal : sockets.Loyal board known) {exchange : Exchange} {after : Switchboard}
    (runs : exchange.board = some after) : (sockets.resume exchange).Loyal after known := by
  rcases Hub.forward_deliveries { sockets.hub with exchange } with
    ⟨left, deliveries, forwarded, same, _⟩
  simp only [Sockets.resume, forwarded]
  exact loyal.carried deliveries (.refl _) (same.trans runs)

/-- The line of a packet leaves the sessions alone. -/
theorem transmit_send
    (loyal : sockets.Loyal board known) {endpoint : Endpoint}
    (inside : endpoint ∈ sockets.endpoints) (now : Instant) (route : Route) (packet : Packet) :
    (sockets.transmit endpoint.connection now
      (Line.ofFrame (.ofRequest (.send route packet)))).1.Loyal board known := by
  rcases loyal.connection_cases inside with absent | serving
  · rw [transmit_absent absent]
    exact loyal
  · obtain ⟨after, messages, handled, runs⟩ :=
      Connection.handle_send loyal.runs sockets.hub.maxMessageSize endpoint.link.frame now route
        packet
    obtain ⟨_, _, _, _, left⟩ := loyal.transmit_goOn serving handled rfl runs
    exact left

theorem send
    (loyal : sockets.Loyal board known) (frame : FrameId) (now : Instant) (route : Route)
    (packet : Packet) : (sockets.send frame now route packet).Loyal board known := by
  unfold Sockets.send
  cases found : sockets.endpoint? frame with
  | none =>
      exact loyal
  | some endpoint =>
      simp only
      split
      · exact loyal
      · rename_i line written
        rw [SocketLink.line_of_toOption written]
        exact loyal.transmit_send (endpoint?_eq_some found).1 now route packet

/-- A farewell takes the frame off the switchboard, or is too long for the hub. -/
theorem transmit_disconnect
    (loyal : sockets.Loyal board known) {endpoint : Endpoint}
    (inside : endpoint ∈ sockets.endpoints) (now : Instant) :
    ∃ after : Switchboard, after.table = board.table ∧ after.nextFrame = board.nextFrame ∧
      (sockets.transmit endpoint.connection now
        (Line.ofFrame (.ofRequest .disconnect))).1.Loyal after known := by
  rcases loyal.connection_cases inside with absent | serving
  · rw [transmit_absent absent]
    exact ⟨board, rfl, rfl, loyal⟩
  · rcases Connection.handle_disconnect sockets.hub.exchange sockets.hub.maxMessageSize
      endpoint.link.frame now with tooLong | parts
    · obtain ⟨_, _, _, _, left⟩ := loyal.transmit_goOn serving tooLong rfl loyal.runs
      exact ⟨board, rfl, rfl, left⟩
    · obtain ⟨_, after⟩ :=
        Exchange.request_of_running loyal.runs () (·.unregister endpoint.link.frame)
      rcases board.kept_unregister endpoint.link.frame with ⟨table, next⟩
      exact ⟨_, table, next, loyal.transmit_ended serving parts rfl after⟩

theorem detach (loyal : sockets.Loyal board known) (frame : FrameId) (now : Instant) :
    ∃ after : Switchboard, after.table = board.table ∧ after.nextFrame = board.nextFrame ∧
      (sockets.detach frame now).Loyal after known := by
  unfold Sockets.detach
  cases found : sockets.endpoint? frame with
  | none =>
      exact ⟨board, rfl, rfl, loyal⟩
  | some endpoint =>
      let silent : Endpoint := { endpoint with link := endpoint.link.detach.2 }
      obtain ⟨parted, inside⟩ :=
        loyal.setEndpoint (endpoint?_eq_some found).1 silent rfl rfl
      simp only
      split
      · exact ⟨board, rfl, rfl, parted⟩
      · rename_i line written
        rw [SocketLink.line_of_toOption written]
        exact parted.transmit_disconnect inside now

/-- The answer to a call says what the switchboard has decided, if it can be read. -/
theorem decides_reply
    (board : Switchboard) (frame : FrameId) (now : Instant) (id : UInt64) (what : Call) :
    board.Decides frame now what (what.outcome? (Hub.reply board frame now id what).1)
      (Hub.reply board frame now id what).2 := by
  cases what with
  | claim session =>
      simp only [Hub.reply]
      cases said : (board.claim frame session now).reply with
      | ok claimed =>
          rw [Call.outcome?, if_pos (Line.short_sessionClaimed id claimed)]
          exact .claimed said
      | error error =>
          simp only [board.board_of_claim_refused said]
          rw [Call.outcome?]
          split <;> refine .undecided ?_ ?_ <;>
            simp [Call.resultOf, Connection.refusal, HubMessage.requestError, HubMessage.reread]
  | join session displayName =>
      simp only [Hub.reply]
      rw [Call.outcome?, if_pos (Line.short_sessionJoined id _)]
      exact .joined session displayName
  | describe session =>
      simp only [Hub.reply]
      rw [Call.outcome?]
      split <;> refine .undecided ?_ ?_ <;> simp [Call.resultOf, HubMessage.reread]

/-- The line of a call is answered, unless its connection has ended or it is too long for the hub,
and then the call ends with what the switchboard has decided. -/
theorem transmit_call
    (loyal : sockets.Loyal board known) {endpoint : Endpoint}
    (inside : endpoint ∈ sockets.endpoints) (now : Instant) {id : UInt64} {what : Call}
    (reading : endpoint.link.reading = true)
    (awaits : endpoint.link.waiting.lookup id = some what) :
    let sent := sockets.transmit endpoint.connection now (what.line id)
    ∃ after,
      board.Decides endpoint.link.frame now what
          ((sent.2.find? fun completion =>
            completion.frame == endpoint.link.frame && completion.request == id).map (·.result))
          after ∧
        sent.1.Loyal after known := by
  obtain ⟨apart, numbers⟩ := loyal.endpointsApart
  rcases loyal.connection_cases inside with absent | serving
  · rw [transmit_absent absent]
    exact ⟨board, .undecided nofun nofun, loyal⟩
  · rcases Connection.handle_call loyal.runs sockets.hub.maxMessageSize endpoint.link.frame now id
      what with tooLong | ⟨exchange, answered, runs⟩
    · obtain ⟨hub, deliveries, sent, plain, left⟩ :=
        loyal.transmit_goOn serving tooLong rfl loyal.runs
      refine ⟨board, ?_, left⟩
      have unheard : (sockets.transmit endpoint.connection now (what.line id)).2 = [] := by
        let tooLong := Connection.tooLong sockets.hub.maxMessageSize
        have portable : tooLong.IsPortable := nofun
        rw [Call.line, sent]
        exact (completions_answer apart numbers inside hub plain tooLong).trans
          (endpoint.take_unnumbered portable rfl)
      rw [unheard]
      exact .undecided nofun nofun
    · obtain ⟨hub, deliveries, sent, plain, left⟩ :=
        loyal.transmit_goOn serving answered rfl runs
      refine ⟨_, ?_, left⟩
      obtain ⟨answers, numbered⟩ :=
        SocketLink.numbered_reply board endpoint.link.frame now id what
      have told : ((sockets.transmit endpoint.connection now (what.line id)).2.find?
          fun completion =>
            completion.frame == endpoint.link.frame && completion.request == id).map (·.result) =
          what.outcome? (Hub.reply board endpoint.link.frame now id what).1 := by
        rw [Call.line, sent]
        exact told_answer apart numbers inside hub plain reading awaits answers numbered
      rw [told]
      exact decides_reply board endpoint.link.frame now id what

theorem call
    (loyal : sockets.Loyal board known) (frame : FrameId) (now : Instant) (what : Call) :
    ∃ after, board.Decides frame now what (sockets.call frame now what).1 after ∧
      (sockets.call frame now what).2.Loyal after known := by
  unfold Sockets.call
  cases found : sockets.endpoint? frame with
  | none =>
      exact ⟨board, .undecided nofun nofun, loyal⟩
  | some endpoint =>
      rcases endpoint?_eq_some found with ⟨inside, rfl⟩
      simp only
      cases started : endpoint.link.start what with
      | mk id rest =>
          rcases rest with ⟨error | line, link⟩
          · simp only
            let failed : Endpoint := { endpoint with link }
            have own : link.frame = endpoint.link.frame := by
              rw [← endpoint.link.frame_start what, started]
            exact ⟨board, .undecided nofun nofun, (loyal.setEndpoint inside failed own rfl).1⟩
          · simp only
            let waiting : Endpoint := { endpoint with link }
            have own : link.frame = endpoint.link.frame := by
              rw [← endpoint.link.frame_start what, started]
            obtain ⟨rfl, reading, awaits⟩ := SocketLink.start_ok started
            obtain ⟨asking, present⟩ := loyal.setEndpoint inside waiting own rfl
            obtain ⟨after, decides, left⟩ := asking.transmit_call present now reading awaits
            rw [show waiting.link.frame = endpoint.link.frame from own] at decides
            exact ⟨after, decides, left⟩

/-! ## Greetings -/

/-- Packets are no greeting. -/
theorem eq_error_of_greet_deliveries
    {deliveries : List Output} (plain : Output.AreDeliveries deliveries) (number : Nat) :
    ∃ error, SocketLink.greet (firstLine? number deliveries) = .error error := by
  cases first : (Output.messagesTo number deliveries).head? with
  | none =>
      simp only [firstLine?, first, Option.map_none]
      exact ⟨_, rfl⟩
  | some message =>
      have written := Output.mem_messagesTo.mp (List.mem_of_mem_head? first)
      rcases plain _ written with ⟨_, packet, same⟩
      cases same
      simp only [firstLine?, first, Option.map_some]
      exact SocketLink.eq_error_of_greet_deliver packet

/-- A visitor that is turned away is told no identity. -/
theorem eq_error_of_turnedAway
    {messages : List HubMessage} (last : messages = [] ∨ ∃ reason, messages = [.reject reason])
    {deliveries : List Output} (plain : Output.AreDeliveries deliveries) (number : Nat) :
    ∃ error, SocketLink.greet (firstLine? number
      (messages.map (Output.write number) ++ .close number :: deliveries)) = .error error := by
  rcases last with rfl | ⟨reason, rfl⟩
  · exact eq_error_of_greet_deliveries plain number
  · have first : firstLine? number
        ([HubMessage.reject reason].map (Output.write number) ++ .close number :: deliveries) =
          some (Line.ofHub (.reject reason)) := by
      simp [firstLine?, Output.messagesTo]
    rw [first]
    exact SocketLink.eq_error_of_greet_reject reason

theorem greet_accepted (number : Nat) (frame : FrameId) (deliveries : List Output) :
    SocketLink.greet (firstLine? number (.write number (.accept frame) :: deliveries)) =
      .ok frame := by
  have first : firstLine? number (.write number (.accept frame) :: deliveries) =
      some (Line.ofHub (.accept frame)) := by
    simp [firstLine?, Output.messagesTo]
  rw [first]
  exact SocketLink.greet_accept frame (Line.short_accept frame)

/-- A frame that is taken in has an endpoint, whose connection serves it. -/
theorem withEndpoint
    (loyal : sockets.Loyal board known) {frame : FrameId} (fresh : frame ∉ known)
    {after : Sockets} (ends : after.ends = sockets.ends ++ [(sockets.hub.nextNumber, frame)])
    {exchange : Exchange}
    (hub : after.hub =
      { sockets.hub with
        exchange
        connections :=
          sockets.hub.connections ++
            [Hub.serving sockets.hub.maxMessageSize (sockets.hub.nextNumber, frame)]
        nextNumber := sockets.hub.nextNumber + 1 })
    {board' : Switchboard} (runs : exchange.board = some board') :
    after.Loyal board' (known ++ [frame]) where
  running := by
    rw [hub]
    exact loyal.running
  runs := by
    rw [hub]
    exact runs
  apart := by
    rw [hub]
    exact Keyed.apart_append.mpr
      ⟨loyal.apart, fun connection inside => Nat.ne_of_lt (loyal.given connection inside)⟩
  given := by
    rw [hub]
    simp only [List.forall_mem_append, List.forall_mem_singleton]
    exact ⟨fun connection inside => Nat.lt_succ_of_lt (loyal.given connection inside),
      Nat.lt_succ_self _⟩
  frames := by
    rw [ends, List.map_append, loyal.frames]
    rfl
  once := by
    rw [List.nodup_append]
    refine ⟨loyal.once, by simp, ?_⟩
    rintro other inside _ new rfl
    exact fresh (List.mem_singleton.mp new ▸ inside)
  numbers := by
    rw [ends]
    exact Keyed.apart_append.mpr
      ⟨loyal.numbers, fun entry inside => Nat.ne_of_lt (loyal.taken entry inside)⟩
  taken := by
    rw [ends, hub]
    simp only [List.forall_mem_append, List.forall_mem_singleton]
    exact ⟨fun entry inside => Nat.lt_succ_of_lt (loyal.taken entry inside),
      Nat.lt_succ_self _⟩
  serves := by
    rw [ends, hub]
    simp only [List.forall_mem_append, List.forall_mem_singleton]
    refine ⟨fun entry inside => ⟨loyal.serves entry inside, ?_⟩, ?_, fun _ => trivial⟩
    · intro same
      exact absurd same.symm (Nat.ne_of_lt (loyal.taken entry inside))
    · intro connection inside same
      exact absurd same (Nat.ne_of_lt (loyal.given connection inside))

theorem attach
    (loyal : sockets.Loyal board known) (displayName : Option String) (now : Instant) :
    let attached := ({ sockets with displayName } : Sockets).attach now
    (∃ error, attached.1 = .error error ∧ attached.2.Loyal board known) ∨
      ∃ frame, attached.1 = .ok frame ∧ board.register.reply = .ok frame ∧
        (frame ∉ known → attached.2.Loyal board.register.board (known ++ [frame])) := by
  have fresh : ∀ connection ∈ sockets.hub.connections,
      connection.number ≠ sockets.hub.nextNumber :=
    fun connection inside => Nat.ne_of_lt (loyal.given connection inside)
  unfold Sockets.attach
  simp only [Hub.accept_of_running loyal.running]
  obtain ⟨exchange, messages, deliveries, received, last, runs, plain⟩ |
      ⟨frame, exchange, deliveries, received, admitted, runs, plain⟩ :=
    Hub.receive_greeting loyal.apart fresh loyal.running loyal.runs displayName now
  · rcases eq_error_of_turnedAway last plain sockets.hub.nextNumber with ⟨error, refused⟩
    refine .inl ⟨error, ?_, ?_⟩
    · simp only [received, refused]
    · have absent : ({ sockets.hub with
          exchange, nextNumber := sockets.hub.nextNumber + 1 } : Hub).connection?
            sockets.hub.nextNumber = none := by
        apply Keyed.find?_eq_none
        intro inside
        rcases List.mem_map.mp inside with ⟨connection, present, same⟩
        exact fresh connection present same
      simp only [received, refused, hub_carry, Hub.finish, absent]
      refine loyal.later ?_ ?_ (.refl _) (Nat.le_succ _) runs
      · exact (ends_carry _ _).trans (ends_carry _ _)
      · exact hub_carry _ _
  · have greeted := greet_accepted sockets.hub.nextNumber frame deliveries
    refine .inr ⟨frame, ?_, admitted, fun new => ?_⟩
    · simp only [received, greeted]
    · simp only [received, greeted]
      refine loyal.withEndpoint new ?_ ?_ runs
      · rw [ends, List.map_append]
        exact congrArg (· ++ [_]) (ends_carry _ _)
      · exact hub_carry _ _

end Loyal

/-! ## Honesty -/

/-- The sockets are loyal to the switchboard. -/
def Obeys : Transport → Switchboard → List FrameId → Prop
  | .direct _, _, _ => False
  | .linked sockets, board, known => sockets.Loyal board known

theorem exists_of_obeys
    {transport : Transport} {board : Switchboard} {known : List FrameId}
    (obeys : Obeys transport board known) :
    ∃ sockets, transport = .linked sockets ∧ sockets.Loyal board known := by
  cases transport with
  | direct exchange =>
      exact obeys.elim
  | linked sockets =>
      exact ⟨sockets, rfl, obeys⟩

theorem obeys_start
    (limits : Limits) (maxMessageSize : Nat) (path : String) (displayName : Option String) :
    Obeys (.linked ⟨.start limits maxMessageSize, path, displayName, []⟩) (.empty limits) [] where
  running := rfl
  runs := rfl
  apart := List.nodup_nil
  given := nofun
  frames := rfl
  once := List.nodup_nil
  numbers := List.nodup_nil
  taken := nofun
  serves := nofun

/-- Sockets are honest, whatever the sizes of lines. -/
theorem honest : Transport.Honest Obeys where
  runs := by
    intro transport board known obeys
    rcases exists_of_obeys obeys with ⟨sockets, rfl, loyal⟩
    exact loyal.runs
  attach := by
    intro transport board known displayName now obeys
    rcases exists_of_obeys obeys with ⟨sockets, rfl, loyal⟩
    exact loyal.attach displayName now
  call := by
    intro transport board known frame now what obeys
    rcases exists_of_obeys obeys with ⟨sockets, rfl, loyal⟩
    exact loyal.call frame now what
  send := by
    intro transport board known frame now route packet obeys
    rcases exists_of_obeys obeys with ⟨sockets, rfl, loyal⟩
    exact loyal.send frame now route packet
  detach := by
    intro transport board known frame now obeys
    rcases exists_of_obeys obeys with ⟨sockets, rfl, loyal⟩
    exact loyal.detach frame now
  collect := by
    intro transport board known frame obeys
    rcases exists_of_obeys obeys with ⟨sockets, rfl, loyal⟩
    exact loyal.collect frame
  resume := by
    intro transport board after known exchange obeys running
    rcases exists_of_obeys obeys with ⟨sockets, rfl, loyal⟩
    exact loyal.resume running

end Sockets

end SessionBus
