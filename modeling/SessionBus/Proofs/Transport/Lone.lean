import SessionBus.Network
import SessionBus.Proofs.Transport.Hosting
import SessionBus.Proofs.Transport.Sizes

/-!
# A frame in a process of its own

A process has one frame on its network, linked to a hub that may serve any number of others.  Its
calls are numbered from one on and come to an end one after the other.
-/

namespace SessionBus

/-- The messages are written, and no connection is closed. -/
def Output.AreWrites (outputs : List Output) : Prop :=
  ∀ output ∈ outputs, ∃ number message, output = .write number message

theorem Output.AreDeliveries.writes {outputs : List Output} (plain : AreDeliveries outputs) :
    AreWrites outputs := by
  intro output inside
  rcases plain output inside with ⟨number, packet, rfl⟩
  exact ⟨number, .deliver packet, rfl⟩

theorem Output.areWrites_append
    (number : Nat) (messages : List HubMessage) {outputs : List Output}
    (plain : AreDeliveries outputs) : AreWrites (messages.map (Output.write number) ++ outputs) := by
  refine List.forall_mem_append.mpr ⟨?_, plain.writes⟩
  simp

namespace Endpoint

/-- The link of a frame is open, and its next call gets some number. -/
structure Ready
    (endpoint : Endpoint) (number : Nat) (frame : FrameId) (next : UInt64) : Prop where
  connection : endpoint.connection = number
  frame : endpoint.link.frame = frame
  next : endpoint.link.nextRequest = next
  reading : endpoint.link.reading = true
  writing : endpoint.link.writing = true

variable {endpoint : Endpoint} {number : Nat} {frame : FrameId} {next : UInt64}

theorem Ready.take
    (ready : endpoint.Ready number frame next) (other : Nat) (message : HubMessage) :
    (endpoint.take (.write other message)).1.Ready number frame next := by
  rcases endpoint.take_cases (.write other message) with
    ⟨connection, ⟨_, link⟩ | ⟨_, _, link⟩ | ⟨closes, _⟩⟩
  · exact ⟨connection.trans ready.connection, link ▸ ready.frame, link ▸ ready.next,
      link ▸ ready.reading, link ▸ ready.writing⟩
  · have kept : ∀ line, (endpoint.link.takeLine line).2.nextRequest = endpoint.link.nextRequest ∧
        (endpoint.link.takeLine line).2.reading = endpoint.link.reading ∧
          (endpoint.link.takeLine line).2.writing = endpoint.link.writing := by
      intro line
      unfold SocketLink.takeLine
      split
      · split
        · rename_i message _
          cases message with
          | deliver packet =>
              exact ⟨rfl, rfl, rfl⟩
          | connected | rejected | sessionClaimed | sessionJoined | sessionDescribed | pong |
            error =>
              simp only [SocketLink.take]
              split <;> exact ⟨rfl, rfl, rfl⟩
        · exact ⟨rfl, rfl, rfl⟩
      · exact ⟨rfl, rfl, rfl⟩
    constructor
    · exact connection.trans ready.connection
    · rw [link, SocketLink.frame_takeLine]
      exact ready.frame
    · rw [link, (kept _).1]
      exact ready.next
    · rw [link, (kept _).2.1]
      exact ready.reading
    · rw [link, (kept _).2.2]
      exact ready.writing
  · cases closes

/-- Whatever the hub writes, the link stays open. -/
theorem Ready.after
    (ready : endpoint.Ready number frame next) {outputs : List Output}
    (writes : Output.AreWrites outputs) : (endpoint.after outputs).Ready number frame next := by
  induction outputs generalizing endpoint with
  | nil =>
      exact ready
  | cons output rest ih =>
      rcases writes output List.mem_cons_self with ⟨other, message, rfl⟩
      exact ih (ready.take other message) fun output inside =>
        writes output (List.mem_cons_of_mem _ inside)

end Endpoint

namespace Network

/-- A network whose only frame is linked to a hub. -/
structure Lone
    (network : Network) (hub : Hub) (number : Nat) (frame : FrameId) (next : UInt64)
    (binding : Binding) : Prop where
  linked :
    ∃ path displayName endpoint, network.transport = .linked ⟨hub, path, displayName, [endpoint]⟩ ∧
      endpoint.Ready number frame next
  connector :
    ∃ connector, network.connectors = [connector] ∧ connector.frame = frame ∧
      connector.binding = binding

variable {network : Network} {hub : Hub} {number max : Nat} {frame : FrameId} {next : UInt64}
  {binding : Binding} {board : Switchboard}

theorem settle_lone
    {path : String} {displayName : Option String} {endpoint : Endpoint}
    (ready : endpoint.Ready number frame next) {connector : Connector}
    (own : connector.frame = frame) :
    (Network.mk (.linked ⟨hub, path, displayName, [endpoint]⟩) [connector]).settle.Lone hub number
      frame next connector.binding := by
  have stays := connector.stays_foldl_dispatch endpoint.inbound
  have found : (endpoint.link.frame == connector.frame) = true := by
    rw [ready.frame, own]
    exact beq_self_eq_true frame
  have taken : Transport.collect connector.frame (.linked ⟨hub, path, displayName, [endpoint]⟩) =
      (endpoint.inbound,
        .linked ⟨hub, path, displayName, [{ endpoint with inbound := [] }]⟩) := by
    simp [Transport.collect, Sockets.collect, Sockets.endpoint?, Sockets.setEndpoint, found]
  have settled : (Network.mk (.linked ⟨hub, path, displayName, [endpoint]⟩) [connector]).settle =
      ⟨.linked ⟨hub, path, displayName, [{ endpoint with inbound := [] }]⟩,
        [endpoint.inbound.foldl Connector.dispatch connector]⟩ := by
    simp only [settle, List.foldl_cons, List.foldl_nil, taken, List.nil_append]
  rw [settled]
  exact ⟨⟨path, displayName, _, rfl, ready.connection, ready.frame, ready.next, ready.reading,
    ready.writing⟩, _, rfl, stays.frame.trans own, stays.binding⟩

theorem Lone.settle (lone : network.Lone hub number frame next binding) :
    network.settle.Lone hub number frame next binding := by
  rcases network with ⟨transport, connectors⟩
  rcases lone with ⟨⟨path, displayName, endpoint, linked, ready⟩, connector, only, own, rfl⟩
  obtain rfl : transport = _ := linked
  obtain rfl : connectors = _ := only
  exact settle_lone ready own

/-- A change of the connector changes what it works in. -/
theorem Lone.modify
    (lone : network.Lone hub number frame next binding) {change : Connector → Connector}
    {changed : Binding}
    (changes : ∀ connector : Connector, connector.frame = frame → connector.binding = binding →
      (change connector).frame = frame ∧ (change connector).binding = changed) :
    (network.modify frame change).Lone hub number frame next changed := by
  rcases lone with ⟨linked, connector, only, own, works⟩
  refine ⟨linked, change connector, ?_, changes connector own works⟩
  simp only [Network.modify, only, List.map_cons, List.map_nil, if_pos own]

/-! ## Calls -/

/-- The document of a request is no larger than its link and its hub take. -/
def Fits (max : Nat) (request : Request) : Prop :=
  (FrameMessage.ofRequest request).toJson.compact.utf8ByteSize ≤ Line.maxSize ∧
    (FrameMessage.ofRequest request).toJson.compact.utf8ByteSize ≤ max

variable {endpoint : Endpoint} {path : String} {displayName : Option String}

/-- The line of a frame reaches the hub, whose outputs reach the frame. -/
theorem transmit_lone
    (hub : Hub) (path : String) (displayName : Option String) (endpoint : Endpoint) (number : Nat)
    (now : Instant) (request : Request) :
    let sockets : Sockets := ⟨hub, path, displayName, [endpoint]⟩
    let taken := hub.take (Hub.lineInput number now request)
    sockets.transmit number now (Line.ofFrame (.ofRequest request)) =
      (⟨taken.1, path, displayName, [endpoint.after taken.2]⟩,
        (({ sockets with hub := taken.1 } : Sockets).carry taken.2).2) := by
  intro sockets taken
  have sent : sockets.transmit number now (Line.ofFrame (.ofRequest request)) =
      ({ sockets with hub := taken.1 } : Sockets).carry taken.2 := rfl
  rw [sent]
  refine Prod.ext ?_ rfl
  rw [Sockets.carry_endpoints]
  rfl

/-- The number of a call, and what is said of the call under it. -/
def resultOf (frame : FrameId) (request : UInt64) (completed : List Completion) :
    Option (Except TransportError CallResult) :=
  (completed.find? fun completion =>
    completion.frame == frame && completion.request == request).map (·.result)

/-- A call that its link can send waits for an answer while the hub takes its line. -/
theorem call_lone
    (ready : endpoint.Ready number frame next) {what : Call}
    (short : (FrameMessage.ofRequest (what.request next)).toJson.compact.utf8ByteSize ≤
      Line.maxSize)
    (hub : Hub) (path : String) (displayName : Option String) (now : Instant) :
    let taken := hub.take (Hub.lineInput number now (what.request next))
    ∃ waiting : Endpoint, waiting.Ready number frame (next + 1) ∧
      waiting.link.waiting.lookup next = some what ∧
      Sockets.call ⟨hub, path, displayName, [endpoint]⟩ frame now what =
        (resultOf frame next
            ((⟨taken.1, path, displayName, [waiting]⟩ : Sockets).carry taken.2).2,
          ⟨taken.1, path, displayName, [waiting.after taken.2]⟩) := by
  intro taken
  have line : ({ endpoint.link with nextRequest := endpoint.link.nextRequest + 1 } :
      SocketLink).lineFor (what.request endpoint.link.nextRequest) =
        .ok (Line.ofFrame (.ofRequest (what.request endpoint.link.nextRequest))) := by
    rw [ready.next]
    simp only [SocketLink.lineFor, if_neg (Nat.not_lt.mpr short), if_pos ready.writing]
    rfl
  obtain ⟨link, started, asking⟩ : ∃ link, endpoint.link.start what =
        (next, .ok (Line.ofFrame (.ofRequest (what.request next))), link) ∧
      Endpoint.Ready { endpoint with link } number frame (next + 1) := by
    obtain ⟨connection, own, rfl, reading, writing⟩ := ready
    simp only [SocketLink.start, if_pos reading, line]
    exact ⟨_, rfl, connection, own, rfl, reading, writing⟩
  have found : (endpoint.link.frame == frame) = true := by
    rw [ready.frame]
    exact beq_self_eq_true frame
  have own : endpoint.link.frame = link.frame := ready.frame.trans asking.frame.symm
  refine ⟨{ endpoint with link }, asking, (SocketLink.start_ok started).2.2, ?_⟩
  simp only [Sockets.call, Sockets.endpoint?, List.find?_cons, found, started,
    Sockets.setEndpoint, List.map_cons, List.map_nil, if_pos own]
  have sent := transmit_lone hub path displayName { endpoint with link } endpoint.connection now
    (what.request next)
  rw [ready.connection] at sent ⊢
  rw [sent]
  rfl

/-- A call whose request fits ends with what the switchboard says. -/
theorem Lone.call_of_fits
    (lone : network.Lone hub number frame next binding) (hosts : hub.Hosts max number frame board)
    (now : Instant) {what : Call} (fits : Fits max (what.request next)) :
    (network.call frame now what).1 = what.outcome? (Hub.reply board frame now next what).1 ∧
      (network.call frame now what).2.Lone
        (hub.take (Hub.lineInput number now (what.request next))).1 number frame (next + 1)
        binding := by
  rcases network with ⟨transport, connectors⟩
  rcases lone with ⟨⟨path, displayName, endpoint, linked, ready⟩, connector⟩
  obtain rfl : transport = _ := linked
  obtain ⟨waiting, asking, awaits, called⟩ := call_lone ready fits.1 hub path displayName now
  obtain ⟨deliveries, written, plain, _⟩ := hosts.call_of_short now next fits.2
  obtain ⟨answers, numbered⟩ := SocketLink.numbered_reply board frame now next what
  let sockets : Sockets := ⟨hub, path, displayName, [waiting]⟩
  have apart : (sockets.endpoints.map (·.link.frame)).Nodup := by
    simp [sockets]
  have numbers : (sockets.endpoints.map (·.connection)).Nodup := by
    simp [sockets]
  have told := Sockets.told_answer apart numbers List.mem_cons_self
    (hub.take (Hub.lineInput number now (what.request next))).1 plain asking.reading awaits answers
    numbered
  rw [asking.connection, asking.frame, ← written] at told
  simp only [call, Transport.call, called]
  refine ⟨told, ⟨path, displayName, _, rfl, asking.after ?_⟩, connector⟩
  rw [written]
  exact Output.areWrites_append number [_] plain

/-- Any other call fails, or is left without an answer. -/
theorem Lone.call_of_not_fits
    (lone : network.Lone hub number frame next binding) (hosts : hub.Hosts max number frame board)
    (now : Instant) {what : Call} (tooLarge : ¬ Fits max (what.request next)) :
    ∀ result, (network.call frame now what).1 ≠ some (.ok result) := by
  rcases network with ⟨transport, connectors⟩
  rcases lone with ⟨⟨path, displayName, endpoint, linked, ready⟩, _⟩
  obtain rfl : transport = _ := linked
  by_cases short : (FrameMessage.ofRequest (what.request next)).toJson.compact.utf8ByteSize ≤
      Line.maxSize
  · have long : max < (FrameMessage.ofRequest (what.request next)).toJson.compact.utf8ByteSize :=
      Nat.lt_of_not_le fun fits => tooLarge ⟨short, fits⟩
    obtain ⟨waiting, asking, awaits, called⟩ := call_lone ready short hub path displayName now
    obtain ⟨deliveries, written, plain⟩ := hosts.call_of_long now next long
    have portable : (Connection.tooLong max).IsPortable := nofun
    let sockets : Sockets := ⟨hub, path, displayName, [waiting]⟩
    have apart : (sockets.endpoints.map (·.link.frame)).Nodup := by
      simp [sockets]
    have numbers : (sockets.endpoints.map (·.connection)).Nodup := by
      simp [sockets]
    have silent := Sockets.completions_answer apart numbers List.mem_cons_self
      (hub.take (Hub.lineInput number now (what.request next))).1 plain (Connection.tooLong max)
    rw [waiting.take_unnumbered portable rfl, asking.connection, ← written] at silent
    have unheard : (Network.call ⟨.linked ⟨hub, path, displayName, [endpoint]⟩, connectors⟩ frame
        now what).1 = none := by
      simp only [call, Transport.call, called]
      exact congrArg (resultOf frame next) silent
    rw [unheard]
    rintro result ⟨⟩
  · have refused : ({ endpoint.link with nextRequest := endpoint.link.nextRequest + 1 } :
        SocketLink).lineFor (what.request endpoint.link.nextRequest) =
          .error (.protocol (.tooLarge ((FrameMessage.ofRequest
            (what.request endpoint.link.nextRequest)).toJson.compact.utf8ByteSize + 1))) := by
      rw [ready.next]
      simp only [SocketLink.lineFor, if_pos (Nat.lt_of_not_le short)]
    have found : (endpoint.link.frame == frame) = true := by
      rw [ready.frame]
      exact beq_self_eq_true frame
    simp only [call, Transport.call, Sockets.call, Sockets.endpoint?, List.find?_cons, found,
      SocketLink.start, if_pos ready.reading, refused]
    rintro result ⟨⟩

/-! ## What a frame asks for -/

/-- The hub has taken a request, with one command for the switchboard, and the frame may go on. -/
structure Taken
    (after : Network) (hub : Hub) (max number : Nat) (frame : FrameId) (next : UInt64)
    (binding : Binding) (board : Switchboard) (now : Instant) (request : Request)
    (command : Command) : Prop where
  lone : after.Lone (hub.take (Hub.lineInput number now request)).1 number frame next binding
  hosts : (hub.take (Hub.lineInput number now request)).1.Hosts max number frame board
  given : hub.given [Hub.lineInput number now request] = [(now, command)]

/-- What an answer says of a claim. -/
theorem outcome?_claim
    (board : Switchboard) (frame : FrameId) (now : Instant) (id : UInt64) (session : SessionId) :
    let outcome := (Call.claim session).outcome?
      (Hub.reply board frame now id (.claim session)).1
    (∃ claimed, (board.claim frame session now).reply = .ok claimed ∧
        outcome = some (.ok (.claimed claimed))) ∨
      (∃ error, (board.claim frame session now).reply = .error error) ∧
        ∀ result, outcome ≠ some (.ok result) := by
  intro outcome
  cases said : (board.claim frame session now).reply with
  | ok claimed =>
      refine .inl ⟨claimed, rfl, ?_⟩
      simp only [outcome, Hub.reply, said]
      rw [Call.outcome?, if_pos (Line.short_sessionClaimed id claimed)]
      rfl
  | error error =>
      refine .inr ⟨⟨error, rfl⟩, fun result => ?_⟩
      simp only [outcome, Hub.reply, said]
      rw [Call.outcome?]
      split
      · simp [Call.resultOf, Connection.refusal, HubMessage.requestError, HubMessage.reread]
      · rintro ⟨⟩

/-- Which session a frame works in after a wish to join was answered. -/
def joinedFrom (binding : Binding) (session : SessionId) (joined : Bool) : Binding :=
  if joined then if binding = .owner session then .owner session else .member session else binding

section Requests

variable (lone : network.Lone hub number frame next binding)
  (hosts : hub.Hosts max number frame board) (now : Instant) (session : SessionId)

include lone hosts

/-- A call has an answer only if its request fits, and then the hub has taken it. -/
theorem Lone.call (what : Call) :
    let called := network.call frame now what
    Fits max (what.request next) ∧
        called.1 = what.outcome? (Hub.reply board frame now next what).1 ∧
        Taken called.2 hub max number frame (next + 1) binding
          (Hub.reply board frame now next what).2 now (what.request next)
          (Hub.commandOf frame what) ∨
      ¬ Fits max (what.request next) ∧ ∀ result, called.1 ≠ some (.ok result) := by
  by_cases fits : Fits max (what.request next)
  · obtain ⟨told, left⟩ := lone.call_of_fits hosts now fits
    obtain ⟨_, _, _, serves, given⟩ := hosts.call_of_short now next fits.2
    exact .inl ⟨fits, told, left, serves, given⟩
  · exact .inr ⟨fits, lone.call_of_not_fits hosts now fits⟩

/-- A claim is decided by the switchboard if its request fits, and else it fails. -/
theorem Lone.create :
    let made := network.create frame now session
    (∃ claimed, Fits max (.claimSession next session) ∧
        (board.claim frame session now).reply = .ok claimed ∧ made.1 = some (.ok claimed) ∧
        Taken made.2 hub max number frame (next + 1) (if claimed then .owner session else binding)
          (board.claim frame session now).board now (.claimSession next session)
          (.claim frame session)) ∨
      (Fits max (.claimSession next session) →
          ∃ error, (board.claim frame session now).reply = .error error) ∧
        ∀ claimed, made.1 ≠ some (.ok claimed) := by
  unfold Network.create
  have called := lone.call hosts now (.claim session)
  generalize network.call frame now (.claim session) = answered at *
  rcases answered with ⟨result, after⟩
  rcases called with ⟨fits, told, taken⟩ | ⟨tooLarge, fails⟩
  · obtain ⟨claimed, said, outcome⟩ | ⟨refused, fails⟩ :=
      outcome?_claim board frame now next session
    · obtain rfl : result = _ := told.trans outcome
      refine .inl ⟨claimed, fits, said, rfl, ?_, taken.hosts, taken.given⟩
      refine (taken.lone.modify fun connector own works => ?_).settle
      unfold Connector.afterClaim
      split <;> simp_all
    · rw [← show result = _ from told] at fails
      refine .inr ⟨fun _ => refused, ?_⟩
      rcases result with _ | error | decided
      · rintro decided ⟨⟩
      · rintro decided ⟨⟩
      · exact absurd rfl (fails decided)
  · refine .inr ⟨fun fits => absurd fits tooLarge, ?_⟩
    rcases result with _ | error | decided
    · rintro decided ⟨⟩
    · rintro decided ⟨⟩
    · exact absurd rfl (fails decided)

/-- So is a wish to join. -/
theorem Lone.join (displayName : String) :
    let made := network.join frame now session displayName
    (∃ joined, Fits max (.joinSession next session displayName) ∧
        (board.join frame session displayName now).reply = joined ∧
        made.1 = some (.ok joined) ∧
        Taken made.2 hub max number frame (next + 1) (joinedFrom binding session joined)
          (board.join frame session displayName now).board now
          (.joinSession next session displayName) (.join frame session displayName)) ∨
      ∀ joined, made.1 ≠ some (.ok joined) := by
  unfold Network.join
  have called := lone.call hosts now (.join session displayName)
  generalize network.call frame now (.join session displayName) = answered at *
  rcases answered with ⟨result, after⟩
  rcases called with ⟨fits, told, taken⟩ | ⟨tooLarge, fails⟩
  · have outcome : result =
        some (.ok (.joined (board.join frame session displayName now).reply)) := by
      rw [show result = _ from told, Hub.reply, Call.outcome?,
        if_pos (Line.short_sessionJoined next _)]
      rfl
    subst outcome
    refine .inl ⟨_, fits, rfl, rfl, ?_, taken.hosts, taken.given⟩
    refine (taken.lone.modify fun connector own works => ?_).settle
    unfold Connector.afterJoin joinedFrom
    split <;> simp_all
  · right
    rcases result with _ | error | decided
    · rintro decided ⟨⟩
    · rintro decided ⟨⟩
    · exact absurd rfl (fails decided)

/-- A question has an answer only if the hub has taken it. -/
theorem Lone.describe :
    let made := network.describe frame now session
    (Fits max (.describeSession next session) ∧
        Taken made.2 hub max number frame (next + 1) binding board now
          (.describeSession next session) (.describe session) ∧
        ((Line.ofHub (.sessionDescribed next (board.table.describe session))).utf8ByteSize ≤
          Line.maxSize → ∃ found, made.1 = some (.ok found))) ∨
      ¬ Fits max (.describeSession next session) ∧ ∀ found, made.1 ≠ some (.ok found) := by
  unfold Network.describe
  have called := lone.call hosts now (.describe session)
  generalize network.call frame now (.describe session) = answered at *
  rcases answered with ⟨result, after⟩
  rcases called with ⟨fits, told, taken⟩ | ⟨tooLarge, fails⟩
  · refine .inl ⟨fits, ?_⟩
    by_cases short : (Line.ofHub (.sessionDescribed next (board.table.describe
        session))).utf8ByteSize ≤ Line.maxSize
    · have outcome : result =
          some (.ok (.described ((board.table.describe session).map Session.reread))) := by
        rw [show result = _ from told, Hub.reply, Call.outcome?, if_pos short]
        rfl
      subst outcome
      exact ⟨⟨taken.lone.settle, taken.hosts, taken.given⟩, fun _ => ⟨_, rfl⟩⟩
    · have outcome : result = none := by
        rw [show result = _ from told, Hub.reply, Call.outcome?, if_neg short]
      subst outcome
      exact ⟨⟨taken.lone.settle, taken.hosts, taken.given⟩, fun fits => absurd fits short⟩
  · refine .inr ⟨tooLarge, ?_⟩
    rcases result with _ | error | decided
    · rintro found ⟨⟩
    · rintro found ⟨⟩
    · exact absurd rfl (fails decided)

/-- The inputs with which a packet comes to the hub: none if its link drops it. -/
def packetInputs (number : Nat) (now : Instant) (packet : Packet) : List Hub.Input :=
  if (FrameMessage.ofRequest (.send .broadcast packet)).toJson.compact.utf8ByteSize ≤ Line.maxSize
  then [Hub.lineInput number now (.send .broadcast packet)] else []

/-- A packet is dropped by its link, or it comes to the hub. -/
theorem Lone.send (packet : Packet) :
    (network.send frame now .broadcast packet).Lone
        (hub.takeAll (packetInputs number now packet)).1 number frame next binding ∧
      (hub.takeAll (packetInputs number now packet)).1.Hosts max number frame board ∧
      hub.given (packetInputs number now packet) =
        if Line.maxSize <
            (FrameMessage.ofRequest (.send .broadcast packet)).toJson.compact.utf8ByteSize then []
        else (Hub.hears? max frame (.send .broadcast packet)).toList.map (now, ·) := by
  rcases network with ⟨transport, connectors⟩
  rcases lone with ⟨⟨path, displayName, endpoint, linked, ready⟩, connector, only, own, rfl⟩
  obtain rfl : transport = _ := linked
  obtain rfl : connectors = _ := only
  have found : (endpoint.link.frame == frame) = true := by
    rw [ready.frame]
    exact beq_self_eq_true frame
  have line := SocketLink.lineOfPacket?_eq ready.writing .broadcast packet
  unfold Network.send packetInputs
  simp only [Transport.send, Sockets.send, Sockets.endpoint?, List.find?_cons, found, line]
  by_cases short :
      (FrameMessage.ofRequest (.send .broadcast packet)).toJson.compact.utf8ByteSize ≤ Line.maxSize
  · obtain ⟨left, ⟨messages, deliveries, written, plain⟩, given⟩ := hosts.send now .broadcast packet
    simp only [if_pos short, if_neg (Nat.not_lt.mpr short), ready.connection, transmit_lone,
      Hub.takeAll]
    refine ⟨settle_lone (ready.after ?_) own, left, given⟩
    rw [written]
    exact Output.areWrites_append number messages plain
  · simp only [if_neg short, if_pos (Nat.lt_of_not_le short), Hub.takeAll]
    exact ⟨settle_lone ready own, hosts, rfl⟩

omit hosts in
/-- A payload is sent as a packet of the session that the frame works in. -/
theorem Lone.broadcast
    {topic : String} {document : Json} (works : binding.session? = some session) :
    network.broadcast frame now topic (.document document) =
      .ok (network.send frame now .broadcast
        (.ofSession topic document.toValue frame session)) := by
  rcases lone.connector with ⟨connector, only, own, rfl⟩
  have found : network.connector? frame = some connector := by
    simp [Network.connector?, only, own]
  unfold Network.broadcast
  simp only [Payload.encode, Payload.toJson, Fallible.ok_bind, found, Option.bind_some,
    Connector.broadcast?, works, Option.map_some, own]
  rfl

end Requests

/-! ## Connecting -/

/-- A frame that is taken in is alone on the network of its process. -/
theorem lone_connect
    (consistent : hub.Consistent max) (runs : hub.exchange.board = some board) (path : String)
    (displayName : Option String) (now : Instant) :
    let connected := (Network.start (.linked ⟨hub, path, displayName, []⟩)).connect now
    let inputs := Hub.conversation hub.nextNumber now [.connect displayName]
    let short :=
      (FrameMessage.ofRequest (.connect displayName)).toJson.compact.utf8ByteSize ≤ max
    (∃ frame, hub.stopping = false ∧ short ∧ board.register.reply = .ok frame ∧
        connected.1 = .ok frame ∧
        connected.2.Lone (hub.takeAll inputs).1 hub.nextNumber frame 1 .unbound ∧
        (hub.takeAll inputs).1.Hosts max hub.nextNumber frame board.register.board ∧
        hub.given inputs = [(now, .register)]) ∨
      (hub.stopping = false → short → ∃ error, board.register.reply = .error error) ∧
        ∃ error, connected.1 = .error error := by
  intro connected inputs short
  cases stopping : hub.stopping with
  | true =>
      refine .inr ⟨(by rintro ⟨⟩), .connect path .notFound, ?_⟩
      simp [connected, Network.connect, Network.start, Transport.attach, Sockets.attach, Hub.accept,
        stopping]
  | false =>
      have received := Hub.takeAll_greeting stopping displayName now
      have carried : ∀ hub outputs,
          (Sockets.carry ⟨hub, path, displayName, []⟩ outputs).1 =
            ⟨hub, path, displayName, []⟩ :=
        fun hub outputs => Sockets.carry_endpoints _ outputs
      have accepted : ∀ frame,
          SocketLink.greet (Sockets.firstLine? hub.nextNumber (hub.takeAll inputs).2) = .ok frame →
            connected = (.ok frame,
              (Network.mk (.linked ⟨(hub.takeAll inputs).1, path, displayName,
                [⟨.attached frame, hub.nextNumber, []⟩]⟩) [.attached frame]).settle) := by
        intro frame greeted
        simp only [connected, Network.connect, Network.start, Transport.attach, Sockets.attach,
          Hub.accept_of_running stopping, ← received, carried]
        rw [greeted]
        rfl
      have rejected : ∀ error,
          SocketLink.greet (Sockets.firstLine? hub.nextNumber (hub.takeAll inputs).2) =
              .error error →
            connected.1 = .error error := by
        intro error greeted
        simp only [connected, Network.connect, Network.start, Transport.attach, Sockets.attach,
          Hub.accept_of_running stopping, ← received]
        rw [greeted]
      by_cases admitted : short ∧ ∃ frame, board.register.reply = .ok frame
      · rcases admitted with ⟨fits, frame, said⟩
        rcases Hub.hosts_of_greeting consistent stopping displayName now runs fits said with
          ⟨deliveries, written, _, hosts, given⟩
        have greeted : SocketLink.greet
            (Sockets.firstLine? hub.nextNumber (hub.takeAll inputs).2) = .ok frame := by
          rw [written]
          exact Sockets.Loyal.greet_accepted _ _ _
        rw [accepted frame greeted]
        exact .inl ⟨frame, rfl, fits, said, rfl,
          settle_lone ⟨rfl, rfl, rfl, rfl, rfl⟩ rfl, hosts, given⟩
      · have full : short → ∃ error, board.register.reply = .error error := by
          intro fits
          cases said : board.register.reply with
          | ok frame =>
              exact absurd ⟨fits, frame, said⟩ admitted
          | error error =>
              exact ⟨error, rfl⟩
        have refused : max <
              (FrameMessage.ofRequest (.connect displayName)).toJson.compact.utf8ByteSize ∨
            ∃ error, board.register.reply = .error error :=
          (Nat.lt_or_ge _ _).imp_right full
        obtain ⟨error, greeted⟩ :=
          Hub.eq_error_of_not_greeted consistent stopping displayName now runs refused
        exact .inr ⟨fun _ => full, error, rejected error greeted⟩

end Network

end SessionBus
