import SessionBus.Proofs.Bus.Inboxes
import SessionBus.Proofs.Bus.Sound
import SessionBus.Proofs.Fallible

/-!
# Transports that serve a bus

What a connector asks of its transport is a demand.  A transport serves its connectors when a
relation between transports and switchboards is kept by every demand, the answers agree, and a
packet is put by for just the registered frames on its route until they collect it.  Whatever the
transport is, a network over it then does what the bus at rest does, one action after the other.
-/

namespace SessionBus

/-- What a connector asks of its transport. -/
inductive Demand where
  | attach (displayName : Option String)
  | call (frame : FrameId) (what : Call)
  | send (frame : FrameId) (route : Route) (packet : Packet)
  | detach (frame : FrameId)

/-- The errors of a transport that stand for those of a switchboard. -/
structure Faults where
  attach : SwitchboardError → TransportError
  call : SwitchboardError → TransportError

namespace CallResult

/-- The result without the times of sessions. -/
def timeless : CallResult → CallResult
  | .described session => .described (session.map Session.timeless)
  | result => result

end CallResult

namespace Outcome

/-- The outcome without the times of sessions. -/
def timeless {ε : Type} : Outcome ε → Outcome ε
  | .described result => .described (result.map (·.map Session.timeless))
  | outcome => outcome

/-- The outcome with the errors of a transport. -/
def under (faults : Faults) : Outcome SwitchboardError → Outcome TransportError
  | .connected result => .connected (result.mapError faults.attach)
  | .decided result => .decided (result.mapError faults.call)
  | .described result => .described (result.mapError faults.call)
  | .sent result => .sent result
  | .opened ticket => .opened ticket
  | .yielded packets => .yielded packets
  | .done => .done
  | .unanswered => .unanswered
  | .noConnector => .noConnector

end Outcome

namespace Switchboard

/-- The answer of a switchboard without times to a call, and the switchboard afterwards. -/
def answer (board : Switchboard) (frame : FrameId) :
    Call → Except SwitchboardError CallResult × Switchboard
  | .claim session =>
      ((board.claim frame session .epoch).reply.map .claimed,
        (board.claim frame session .epoch).board)
  | .join session displayName =>
      (.ok (.joined (board.join frame session displayName .epoch).reply),
        (board.join frame session displayName .epoch).board)
  | .describe session => (.ok (.described (board.table.describe session)), board)

end Switchboard

/--
The transport does what the switchboard does, for all demands that fit it: `rel` relates it to the
switchboard, to the frames that were ever taken in, and to the packets that have come for frames.
-/
structure Serves
    (rel : Transport → Switchboard → List FrameId → Pending → Prop) (faults : Faults)
    (fits : Transport → Instant → Demand → Prop) : Prop where
  attach :
    ∀ {transport : Transport} {board : Switchboard} {known : List FrameId}
      (displayName : Option String) (now : Instant),
      rel transport board known .nothing → fits transport now (.attach displayName) →
        ((transport.withName displayName).attach now).1 =
            board.register.reply.mapError faults.attach ∧
          ((∀ frame ∈ board.register.reply.toOption, frame ∉ known) →
            rel ((transport.withName displayName).attach now).2 board.register.board
              (known ++ board.register.reply.toOption.toList) .nothing)
  call :
    ∀ {transport : Transport} {board : Switchboard} {known : List FrameId} {frame : FrameId}
      (now : Instant) (what : Call),
      rel transport board known .nothing → frame ∈ board.frames.toList →
        fits transport now (.call frame what) →
          (transport.call frame now what).1.map (·.map CallResult.timeless) =
              some ((board.answer frame what).1.mapError faults.call) ∧
            rel (transport.call frame now what).2 (board.answer frame what).2 known .nothing
  send :
    ∀ {transport : Transport} {board : Switchboard} {known : List FrameId} {frame : FrameId}
      (now : Instant) {packet : Packet},
      rel transport board known .nothing → frame ∈ board.frames.toList → packet.sender = frame →
        fits transport now (.send frame packet.route packet) →
          rel (transport.send frame now packet.route packet) board known
            (.ofPacket board packet.route packet)
  detach :
    ∀ {transport : Transport} {board : Switchboard} {known : List FrameId} {frame : FrameId}
      (now : Instant),
      rel transport board known .nothing → frame ∈ board.frames.toList →
        fits transport now (.detach frame) →
          rel (transport.detach frame now) (board.unregister frame).board known .nothing
  collect :
    ∀ {transport : Transport} {board : Switchboard} {known : List FrameId} {pending : Pending}
      (frame : FrameId),
      rel transport board known pending →
        (transport.collect frame).1 = pending frame ∧
          rel (transport.collect frame).2 board known (pending.without frame)

namespace Network

def demand? (network : Network) : Action → Option Demand
  | .connect displayName => some (.attach displayName)
  | .create frame session =>
      if network.isOpen frame then some (.call frame (.claim session)) else none
  | .join frame session displayName =>
      if network.isOpen frame then some (.call frame (.join session displayName)) else none
  | .describe frame session =>
      if network.isOpen frame then some (.call frame (.describe session)) else none
  | .broadcast frame topic payload =>
      if network.isOpen frame then do
        let data ← (payload.encode topic).toOption
        let packet ← (network.connector? frame).bind (·.broadcast? topic data)
        some (.send frame .broadcast packet)
      else none
  | .unicast frame topic payload destination =>
      if network.isOpen frame then do
        let data ← (payload.encode topic).toOption
        some (.send frame (.toFrame destination) (.toFrame topic data frame destination))
      else none
  | .close frame => if network.isOpen frame then some (.detach frame) else none
  | .receiver _ _ | .receive _ _ | .drain _ _ | .dropReceiver _ _ => none

/-- The network has the connectors of the bus, its transport serves its switchboard, and nothing is
on its way. -/
structure Shows
    (rel : Transport → Switchboard → List FrameId → Pending → Prop)
    (network : Network) (bus : Bus) : Prop where
  connectors : network.connectors = bus.connectors
  transport : rel network.transport bus.board (bus.connectors.map (·.frame)) .nothing

variable {rel : Transport → Switchboard → List FrameId → Pending → Prop} {faults : Faults}
  {fits : Transport → Instant → Demand → Prop}

/-! ## Settling -/

/-- What has come for frames other than those of some connectors. -/
def leftBy (connectors : List Connector) (pending : Pending) : Pending :=
  fun frame => if frame ∈ connectors.map (·.frame) then [] else pending frame

/-- One connector after the other passes on what has come for its frame. -/
theorem settle_connectors
    (serves : Serves rel faults fits) {board : Switchboard} {known : List FrameId}
    (connectors : List Connector) (apart : (connectors.map (·.frame)).Nodup)
    {transport : Transport} {pending : Pending} (related : rel transport board known pending)
    (done : List Connector) :
    let settled := connectors.foldl
      (fun (transport, done) connector =>
        let (packets, transport) := transport.collect connector.frame
        (transport, done ++ [packets.foldl Connector.dispatch connector]))
      (transport, done)
    rel settled.1 board known (leftBy connectors pending) ∧
      settled.2 = done ++ connectors.map fun connector =>
        (pending connector.frame).foldl Connector.dispatch connector := by
  induction connectors generalizing transport pending done with
  | nil =>
      have same : leftBy [] pending = pending := by
        funext frame
        simp [leftBy]
      simpa [same] using related
  | cons connector rest ih =>
      simp only [List.map_cons, List.nodup_cons] at apart
      rcases serves.collect connector.frame related with ⟨packets, collected⟩
      obtain ⟨left, passed⟩ := ih apart.2 collected
        (done ++ [(pending connector.frame).foldl Connector.dispatch connector])
      -- What this connector takes is for its frame only, which none of the others has.
      have others : ∀ other ∈ rest,
          (pending.without connector.frame) other.frame = pending other.frame := by
        intro other inside
        have different : other.frame ≠ connector.frame := by
          intro same
          exact apart.1 (same ▸ List.mem_map_of_mem inside)
        simp [Pending.without, different]
      have same : leftBy rest (pending.without connector.frame) =
          leftBy (connector :: rest) pending := by
        funext frame
        by_cases here : frame = connector.frame <;> simp [leftBy, Pending.without, here]
      simp only [List.foldl_cons, packets]
      rw [same] at left
      refine ⟨left, ?_⟩
      rw [passed, List.map_cons, List.append_assoc, List.singleton_append]
      congr 2
      exact List.map_congr_left fun other inside => by rw [others other inside]

@[simp] theorem length_settle (network : Network) :
    network.settle.connectors.length = network.connectors.length := by
  have passed : ∀ (connectors done : List Connector) (transport : Transport),
      (connectors.foldl
        (fun (transport, done) connector =>
          let (packets, transport) := transport.collect connector.frame
          (transport, done ++ [packets.foldl Connector.dispatch connector]))
        (transport, done)).2.length = done.length + connectors.length := by
    intro connectors
    induction connectors with
    | nil =>
        intro done transport
        rfl
    | cons connector rest ih =>
        intro done transport
        rw [List.foldl_cons, ih]
        simp only [List.length_append, List.length_cons, List.length_nil]
        omega
  unfold settle
  simp only [passed, List.length_nil, Nat.zero_add]

@[simp] theorem length_modify
    (network : Network) (frame : FrameId) (change : Connector → Connector) :
    (network.modify frame change).connectors.length = network.connectors.length :=
  List.length_map _

theorem frame_foldl_dispatch (packets : List Packet) (connector : Connector) :
    (packets.foldl Connector.dispatch connector).frame = connector.frame := by
  induction packets generalizing connector with
  | nil =>
      rfl
  | cons packet rest ih =>
      exact (ih (connector.dispatch packet)).trans (connector.kept_dispatch packet).frame

/-- Once all packets belong to connectors of the network, they are all passed on. -/
theorem shows_settle
    (serves : Serves rel faults fits) (network : Network) {board : Switchboard}
    {pending : Pending}
    (related : rel network.transport board (network.connectors.map (·.frame)) pending)
    (apart : (network.connectors.map (·.frame)).Nodup)
    (attached : ∀ frame, frame ∉ network.connectors.map (·.frame) → pending frame = []) :
    Shows rel network.settle ⟨board, network.connectors.map fun connector =>
      (pending connector.frame).foldl Connector.dispatch connector⟩ := by
  rcases settle_connectors serves network.connectors apart related [] with ⟨left, passed⟩
  have none : leftBy network.connectors pending = .nothing := by
    funext frame
    unfold leftBy
    split
    · rfl
    · rename_i unknown
      exact attached frame unknown
  rw [none] at left
  constructor
  · exact passed
  · simp only [List.map_map, Function.comp_def, frame_foldl_dispatch]
    exact left

/-- A network with nothing on its way stays as it is. -/
theorem Shows.settle
    (serves : Serves rel faults fits) {network : Network} {bus : Bus}
    (shown : Shows rel network bus) (sound : bus.Sound) : Shows rel network.settle bus := by
  have apart := sound.apart
  rw [← shown.connectors] at apart
  have related := shown.transport
  rw [← shown.connectors] at related
  have settled := shows_settle serves network related apart fun _ _ => rfl
  simpa [Pending.nothing, shown.connectors] using settled

/-! ## Packets -/

/-- A connector that is not on the route of a packet does not accept it. -/
theorem accepts_of_not_includes
    {connector : Connector} {packet : Packet}
    (off : packet.route.includes connector.frame packet.sender = false) :
    connector.accepts packet = false := by
  unfold Packet.route at off
  unfold Connector.accepts
  cases destination : packet.destination with
  | none =>
      have own : connector.frame = packet.sender := by
        simpa [destination, Route.includes] using off
      simp [own]
  | some frame =>
      have other : frame ≠ connector.frame := by
        intro same
        simp [destination, Route.includes, Route.toFrame, FrameSet.contains, FrameSet.single,
          same] at off
      simp [other]

/-- What is passed on after a packet was sent is what every connector makes of it. -/
theorem dispatch_ofPacket
    {bus : Bus} (sound : bus.Sound) {connector : Connector} (inside : connector ∈ bus.connectors)
    (packet : Packet) :
    (Pending.ofPacket bus.board packet.route packet connector.frame).foldl
        Connector.dispatch connector =
      connector.dispatch packet := by
  unfold Pending.ofPacket
  split
  · rfl
  · rename_i missed
    unfold Connector.dispatch
    split
    · rfl
    · rename_i unclosed
      have registered : connector.frame ∈ bus.board.frames.toList := by
        rw [sound.registered connector inside]
        exact Bool.eq_false_iff.mpr unclosed
      have off : packet.route.includes connector.frame packet.sender = false := by
        simpa [registered] using missed
      simp [accepts_of_not_includes off]

/-- A packet that is sent is passed to every connector. -/
theorem shows_send
    (serves : Serves rel faults fits) {network : Network} {bus : Bus}
    (shown : Shows rel network bus) (sound : bus.Sound) {frame : FrameId}
    (registered : frame ∈ bus.board.frames.toList) (now : Instant) {packet : Packet}
    (sender : packet.sender = frame)
    (fit : fits network.transport now (.send frame packet.route packet)) :
    Shows rel (network.send frame now packet.route packet) (bus.spread packet) := by
  have apart := sound.apart
  rw [← shown.connectors] at apart
  have sent := serves.send now shown.transport registered sender fit
  rw [← shown.connectors] at sent
  have attached : ∀ other, other ∉ network.connectors.map (·.frame) →
      Pending.ofPacket bus.board packet.route packet other = [] := by
    intro other unknown
    unfold Pending.ofPacket
    split
    · rename_i on
      rcases sound.attached other on.1 with ⟨connector, found, rfl⟩
      rw [shown.connectors] at unknown
      exact absurd (List.mem_map_of_mem found) unknown
    · rfl
  have settled := shows_settle serves
    { network with transport := network.transport.send frame now packet.route packet } sent apart
    attached
  have passed : network.connectors.map (fun connector =>
      (Pending.ofPacket bus.board packet.route packet connector.frame).foldl
        Connector.dispatch connector) = bus.connectors.map (·.dispatch packet) := by
    rw [shown.connectors]
    exact List.map_congr_left fun connector inside => dispatch_ofPacket sound inside packet
  rw [passed] at settled
  exact settled

/-! ## Actions -/

/-- The network does what the bus does: the outcomes agree, and it shows the bus afterwards. -/
structure Agrees
    (rel : Transport → Switchboard → List FrameId → Pending → Prop) (faults : Faults)
    (done : Outcome TransportError × Network) (expected : Outcome SwitchboardError × Bus) :
    Prop where
  outcome : done.1.timeless = expected.1.under faults
  shows : Shows rel done.2 expected.2

theorem Shows.connector?
    {network : Network} {bus : Bus} (shown : Shows rel network bus) (frame : FrameId) :
    network.connector? frame = bus.connector? frame := by
  unfold Network.connector? Bus.connector?
  rw [shown.connectors]

theorem Shows.isOpen
    {network : Network} {bus : Bus} (shown : Shows rel network bus) (frame : FrameId) :
    network.isOpen frame = bus.isOpen frame := by
  unfold Network.isOpen Bus.isOpen
  rw [shown.connector?]

/-- The frames of connectors do not change when each connector keeps its own. -/
theorem Shows.modify
    {network : Network} {bus : Bus} (shown : Shows rel network bus)
    (frame : FrameId) {change : Connector → Connector}
    (kept : ∀ connector, connector.frame = frame → (change connector).frame = frame) :
    Shows rel (network.modify frame change) (bus.modify frame change) := by
  constructor
  · simp only [Network.modify, Bus.modify, shown.connectors]
  · rw [bus.frames_modify kept]
    exact shown.transport

/-- The connector of a frame is replaced by one that it has become. -/
theorem Shows.replace
    {network : Network} {bus : Bus} (shown : Shows rel network bus)
    {frame : FrameId} {connector changed : Connector}
    (found : bus.connector? frame = some connector) (kept : connector.Kept changed) :
    Shows rel (network.modify frame fun _ => changed) (bus.modify frame fun _ => changed) := by
  apply shown.modify
  intro _ _
  exact kept.frame.trans (Bus.connector?_eq_some found).2

/-- An action of a frame is one of its connector, if that is open. -/
theorem agrees_ifOpen
    {network : Network} {bus : Bus} (shown : Shows rel network bus) (frame : FrameId)
    {done : Outcome TransportError × Network} {expected : Outcome SwitchboardError × Bus}
    (agrees : bus.isOpen frame = true → Agrees rel faults done expected) :
    Agrees rel faults (network.ifOpen frame done) (bus.ifOpen frame expected) := by
  unfold Network.ifOpen Bus.ifOpen
  rw [shown.isOpen]
  split
  · rename_i isOpen
    exact agrees isOpen
  · exact ⟨rfl, shown⟩

theorem agrees_connect
    (serves : Serves rel faults fits) {network : Network} {bus : Bus}
    (shown : Shows rel network bus) (sound : bus.Sound) (displayName : Option String)
    (now : Instant)
    (few : bus.connect.2.connectors.length < UInt64.size)
    (fit : fits network.transport now (.attach displayName)) :
    Agrees rel faults (network.perform now (.connect displayName)) bus.connect := by
  rcases serves.attach displayName now shown.transport fit with ⟨answer, related⟩
  have soundAfter := Bus.sound_connect sound few
  unfold Bus.connect at soundAfter ⊢
  unfold Network.perform Network.connect
  cases attached : (network.transport.withName displayName).attach now with
  | mk result transport =>
      rw [attached] at answer related
      cases reply : bus.board.register.reply with
      | error error =>
          simp only [reply, Fallible.error_mapError, Except.toOption] at answer related soundAfter ⊢
          subst answer
          simp only [attached, shown.connectors]
          have left : Shows rel ⟨transport, bus.connectors⟩
              ⟨bus.board.register.board, bus.connectors⟩ :=
            ⟨rfl, by simpa using related (by simp)⟩
          exact ⟨rfl, left.settle serves soundAfter⟩
      | ok frame =>
          simp only [reply, Fallible.ok_mapError, Except.toOption] at answer related soundAfter ⊢
          subst answer
          simp only [attached, shown.connectors]
          have fresh : ∀ new ∈ some frame, new ∉ bus.connectors.map (·.frame) := by
            rintro new ⟨⟩ taken
            rcases List.mem_map.mp taken with ⟨connector, inside, same⟩
            exact (Keyed.apart_append.mp soundAfter.apart).2 connector inside same
          have entered : Shows rel ⟨transport, bus.connectors ++ [.attached frame]⟩
              ⟨bus.board.register.board, bus.connectors ++ [.attached frame]⟩ :=
            ⟨rfl, by simpa [Connector.attached] using related fresh⟩
          exact ⟨rfl, entered.settle serves soundAfter⟩

/-- A call is answered as the switchboard answers it. -/
theorem call_of_shows
    (serves : Serves rel faults fits) {network : Network} {bus : Bus}
    (shown : Shows rel network bus) (sound : bus.Sound) {frame : FrameId}
    (isOpen : bus.isOpen frame = true) (now : Instant) (what : Call)
    (fit : fits network.transport now (.call frame what)) :
    ∃ result, (network.call frame now what).1 = some result ∧
      result.map CallResult.timeless =
        (bus.board.answer frame what).1.mapError faults.call ∧
      Shows rel (network.call frame now what).2
        { bus with board := (bus.board.answer frame what).2 } := by
  have registered := Bus.mem_frames_of_isOpen sound isOpen
  rcases serves.call now what shown.transport registered fit with ⟨answer, related⟩
  cases result : (network.transport.call frame now what).1 with
  | none =>
      simp [result] at answer
  | some result' =>
      rw [result] at answer
      exact ⟨result', result, Option.some.inj answer, shown.connectors, related⟩

theorem agrees_create
    (serves : Serves rel faults fits) {network : Network} {bus : Bus}
    (shown : Shows rel network bus) (sound : bus.Sound) {frame : FrameId}
    (isOpen : bus.isOpen frame = true) (now : Instant) (session : SessionId)
    (fit : fits network.transport now (.call frame (.claim session))) :
    Agrees rel faults
      (let (result, network) := network.create frame now session
       (result.elim .unanswered .decided, network))
      (bus.create frame session) := by
  obtain ⟨result, called, answer, after⟩ :=
    call_of_shows serves shown sound isOpen now (.claim session) fit
  have soundAfter := Bus.sound_create sound frame session
  unfold Network.create Bus.create at *
  cases call : network.call frame now (.claim session) with
  | mk answered network' =>
      rw [call] at called after
      simp only at called after
      subst called
      simp only [Switchboard.answer] at answer after
      cases reply : (bus.board.claim frame session .epoch).reply with
      | error error =>
          simp only [reply] at answer soundAfter ⊢
          rcases Fallible.eq_error_of_map answer with rfl
          exact ⟨rfl, after.settle serves soundAfter⟩
      | ok claimed =>
          simp only [reply] at answer soundAfter ⊢
          rcases Fallible.eq_ok_of_map answer with ⟨value, rfl, same⟩
          cases value with
          | claimed result =>
              obtain rfl : result = claimed := by simpa [CallResult.timeless] using same
              have kept (connector : Connector) (same : connector.frame = frame) :=
                (connector.kept_afterClaim session result).frame.trans same
              exact ⟨rfl, (after.modify frame kept).settle serves soundAfter⟩
          | joined result =>
              simp [CallResult.timeless] at same
          | described session =>
              simp [CallResult.timeless] at same

theorem agrees_join
    (serves : Serves rel faults fits) {network : Network} {bus : Bus}
    (shown : Shows rel network bus) (sound : bus.Sound) {frame : FrameId}
    (isOpen : bus.isOpen frame = true) (now : Instant) (session : SessionId)
    (displayName : String)
    (fit : fits network.transport now (.call frame (.join session displayName))) :
    Agrees rel faults
      (let (result, network) := network.join frame now session displayName
       (result.elim .unanswered .decided, network))
      (bus.join frame session displayName) := by
  obtain ⟨result, called, answer, after⟩ :=
    call_of_shows serves shown sound isOpen now (.join session displayName) fit
  have soundAfter := Bus.sound_join sound frame session displayName
  unfold Network.join Bus.join at *
  cases call : network.call frame now (.join session displayName) with
  | mk answered network' =>
      rw [call] at called after
      simp only at called after
      subst called
      simp only [Switchboard.answer] at answer after
      rcases Fallible.eq_ok_of_map answer with ⟨value, rfl, same⟩
      cases value with
      | joined result =>
          obtain rfl : result = (bus.board.join frame session displayName .epoch).reply := by
            simpa [CallResult.timeless] using same
          have kept (connector : Connector) (same : connector.frame = frame) :=
            (connector.kept_afterJoin session
              (bus.board.join frame session displayName .epoch).reply).frame.trans same
          exact ⟨rfl, (after.modify frame kept).settle serves soundAfter⟩
      | claimed result =>
          simp [CallResult.timeless] at same
      | described session =>
          simp [CallResult.timeless] at same

theorem agrees_describe
    (serves : Serves rel faults fits) {network : Network} {bus : Bus}
    (shown : Shows rel network bus) (sound : bus.Sound) {frame : FrameId}
    (isOpen : bus.isOpen frame = true) (now : Instant) (session : SessionId)
    (fit : fits network.transport now (.call frame (.describe session))) :
    Agrees rel faults
      (let (result, network) := network.describe frame now session
       (result.elim .unanswered .described, network))
      (.described (.ok (bus.board.table.describe session)), bus) := by
  obtain ⟨result, called, answer, after⟩ :=
    call_of_shows serves shown sound isOpen now (.describe session) fit
  unfold Network.describe
  cases call : network.call frame now (.describe session) with
  | mk answered network' =>
      rw [call] at called after
      simp only at called after
      subst called
      simp only [Switchboard.answer] at answer after
      rcases Fallible.eq_ok_of_map answer with ⟨value, rfl, same⟩
      cases value with
      | described found =>
          have record : found.map Session.timeless = bus.board.table.describe session := by
            simpa [CallResult.timeless] using same
          refine ⟨?_, after.settle serves sound⟩
          simp [Outcome.timeless, Outcome.under, Except.map, record]
      | claimed result =>
          simp [CallResult.timeless] at same
      | joined result =>
          simp [CallResult.timeless] at same

theorem agrees_broadcast
    (serves : Serves rel faults fits) {network : Network} {bus : Bus}
    (shown : Shows rel network bus) (sound : bus.Sound) {frame : FrameId}
    (isOpen : bus.isOpen frame = true) (now : Instant) (topic : String) (payload : Payload)
    (fit : ∀ demand ∈ network.demand? (.broadcast frame topic payload),
      fits network.transport now demand) :
    Agrees rel faults
      (match network.broadcast frame now topic payload with
      | .ok network => (.sent (.ok ()), network)
      | .error error => (.sent (.error error), network))
      (match payload.encode topic with
      | .ok data => (.sent (.ok ()), bus.broadcast frame topic data)
      | .error error => (.sent (.error error), bus)) := by
  simp only [demand?, shown.isOpen, isOpen, if_true, shown.connector?] at fit
  unfold Network.broadcast Bus.broadcast
  rw [shown.connector?]
  cases encoded : payload.encode topic with
  | error error =>
      exact ⟨rfl, shown⟩
  | ok data =>
      rcases Bus.exists_of_isOpen isOpen with ⟨connector, found, unclosed⟩
      rcases Bus.connector?_eq_some found with ⟨inside, rfl⟩
      simp only [found, encoded] at fit ⊢
      cases sent : connector.broadcast? topic data with
      | none =>
          simp only [Option.bind_some, sent, Fallible.ok_bind, Fallible.pure_eq_ok]
          exact ⟨rfl, shown⟩
      | some packet =>
          rcases Option.map_eq_some_iff.mp sent with ⟨session, _, rfl⟩
          have registered := Bus.mem_frames_of_isOpen sound isOpen
          let packet := Packet.ofSession topic data connector.frame session
          have fitting := fit (.send connector.frame .broadcast packet)
            (by simp [sent, Except.toOption, packet])
          simp only [Option.bind_some, sent, Fallible.ok_bind, Fallible.pure_eq_ok]
          exact ⟨rfl, shows_send serves shown sound registered now
            (show packet.sender = connector.frame from rfl) fitting⟩

theorem agrees_unicast
    (serves : Serves rel faults fits) {network : Network} {bus : Bus}
    (shown : Shows rel network bus) (sound : bus.Sound) {frame : FrameId}
    (isOpen : bus.isOpen frame = true) (now : Instant) (topic : String) (payload : Payload)
    (destination : FrameId)
    (fit : ∀ demand ∈ network.demand? (.unicast frame topic payload destination),
      fits network.transport now demand) :
    Agrees rel faults
      (match network.unicast frame now topic payload destination with
      | .ok network => (.sent (.ok ()), network)
      | .error error => (.sent (.error error), network))
      (match payload.encode topic with
      | .ok data => (.sent (.ok ()), bus.spread (.toFrame topic data frame destination))
      | .error error => (.sent (.error error), bus)) := by
  simp only [demand?, shown.isOpen, isOpen, if_true] at fit
  unfold Network.unicast
  cases encoded : payload.encode topic with
  | error error =>
      exact ⟨rfl, shown⟩
  | ok data =>
      have registered := Bus.mem_frames_of_isOpen sound isOpen
      have fitting := fit
        (.send frame (.toFrame destination) (.toFrame topic data frame destination))
        (by simp [encoded, Except.toOption])
      let packet := Packet.toFrame topic data frame destination
      exact ⟨rfl, shows_send serves shown sound registered now
        (show packet.sender = frame from rfl) fitting⟩

theorem agrees_close
    (serves : Serves rel faults fits) {network : Network} {bus : Bus}
    (shown : Shows rel network bus) (sound : bus.Sound) {frame : FrameId}
    (isOpen : bus.isOpen frame = true) (now : Instant)
    (fit : fits network.transport now (.detach frame)) :
    Agrees rel faults (.done, network.close frame now) (.done, bus.close frame) := by
  have registered := Bus.mem_frames_of_isOpen sound isOpen
  have related := serves.detach now shown.transport registered fit
  have kept (connector : Connector) (same : connector.frame = frame) :
      connector.close.frame = frame := same
  have closed : Shows rel
      { network.modify frame Connector.close with
        transport := network.transport.detach frame now } (bus.close frame) :=
    ⟨(shown.modify frame kept).connectors, (bus.frames_modify kept).symm ▸ related⟩
  exact ⟨rfl, closed.settle serves (Bus.sound_close sound isOpen)⟩

theorem agrees_receiver
    {network : Network} {bus : Bus} (shown : Shows rel network bus)
    (frame : FrameId) (topic : String) :
    Agrees rel faults
      (let (ticket, network) := network.receiver frame topic
       (ticket.elim .noConnector .opened, network))
      (bus.receiver frame topic) := by
  unfold Network.receiver Bus.receiver
  rw [shown.connector?]
  cases found : bus.connector? frame with
  | none =>
      exact ⟨rfl, shown⟩
  | some connector =>
      exact ⟨rfl, shown.replace found (connector.kept_receiver topic)⟩

theorem agrees_receive
    {network : Network} {bus : Bus} (shown : Shows rel network bus)
    (frame : FrameId) (ticket : Ticket) :
    Agrees rel faults
      (let (packet, network) := network.receive frame ticket
       (.yielded packet.toList, network))
      (bus.receive frame ticket) := by
  unfold Network.receive Bus.receive
  rw [shown.connector?]
  cases found : bus.connector? frame with
  | none =>
      exact ⟨rfl, shown⟩
  | some connector =>
      exact ⟨rfl, shown.replace found (connector.kept_receive ticket)⟩

theorem agrees_drain
    {network : Network} {bus : Bus} (shown : Shows rel network bus)
    (frame : FrameId) (ticket : Ticket) :
    Agrees rel faults
      (let (packets, network) := network.drain frame ticket
       (.yielded packets, network))
      (bus.drain frame ticket) := by
  unfold Network.drain Bus.drain
  rw [shown.connector?]
  cases found : bus.connector? frame with
  | none =>
      exact ⟨rfl, shown⟩
  | some connector =>
      exact ⟨rfl, shown.replace found (connector.kept_drain ticket)⟩

/-- A network over a transport that serves it does what the bus does. -/
theorem agrees_perform
    (serves : Serves rel faults fits) {network : Network} {bus : Bus}
    (shown : Shows rel network bus) (sound : bus.Sound) (now : Instant) (action : Action)
    (few : (bus.perform action).2.connectors.length < UInt64.size)
    (fit : ∀ demand ∈ network.demand? action, fits network.transport now demand) :
    Agrees rel faults (network.perform now action) (bus.perform action) := by
  cases action with
  | connect displayName =>
      exact agrees_connect serves shown sound displayName now few (fit _ rfl)
  | create frame session =>
      apply agrees_ifOpen shown
      intro isOpen
      exact agrees_create serves shown sound isOpen now session
        (fit _ (by simp [demand?, shown.isOpen, isOpen]))
  | join frame session displayName =>
      apply agrees_ifOpen shown
      intro isOpen
      exact agrees_join serves shown sound isOpen now session displayName
        (fit _ (by simp [demand?, shown.isOpen, isOpen]))
  | describe frame session =>
      apply agrees_ifOpen shown
      intro isOpen
      exact agrees_describe serves shown sound isOpen now session
        (fit _ (by simp [demand?, shown.isOpen, isOpen]))
  | broadcast frame topic payload =>
      apply agrees_ifOpen shown
      intro isOpen
      exact agrees_broadcast serves shown sound isOpen now topic payload fit
  | unicast frame topic payload destination =>
      apply agrees_ifOpen shown
      intro isOpen
      exact agrees_unicast serves shown sound isOpen now topic payload destination fit
  | receiver frame topic =>
      apply agrees_ifOpen shown
      intro isOpen
      exact agrees_receiver shown frame topic
  | receive frame ticket =>
      exact agrees_receive shown frame ticket
  | drain frame ticket =>
      exact agrees_drain shown frame ticket
  | dropReceiver frame ticket =>
      exact ⟨rfl, shown.modify frame fun _ same => same⟩
  | close frame =>
      apply agrees_ifOpen shown
      intro isOpen
      exact agrees_close serves shown sound isOpen now
        (fit _ (by simp [demand?, shown.isOpen, isOpen]))

/-! ## Runs -/

theorem length_connectors_perform
    (network : Network) (now : Instant) {action : Action}
    (other : ∀ displayName, action ≠ .connect displayName) :
    (network.perform now action).2.connectors.length = network.connectors.length := by
  have guarded (frame : FrameId) (act : Outcome TransportError × Network)
      (same : act.2.connectors.length = network.connectors.length) :
      (network.ifOpen frame act).2.connectors.length = network.connectors.length :=
    ifOpen_cases (motive := fun done => done.2.connectors.length = network.connectors.length)
      (fun _ => same) rfl
  have called {frame : FrameId} {what : Call} {answered}
      (call : network.call frame now what = answered) :
      answered.2.connectors.length = network.connectors.length := by
    rw [← call]
    rfl
  cases action with
  | connect displayName =>
      exact absurd rfl (other displayName)
  | create frame session =>
      apply guarded
      simp only [create]
      split <;> rename_i call <;> simp [called call]
  | join frame session displayName =>
      apply guarded
      simp only [join]
      split <;> rename_i call <;> simp [called call]
  | describe frame session =>
      apply guarded
      simp only [describe]
      split <;> rename_i call <;> simp [called call]
  | broadcast frame topic payload =>
      apply guarded
      unfold broadcast
      cases payload.encode topic with
      | error error =>
          rfl
      | ok data =>
          simp only [Fallible.ok_bind, Fallible.pure_eq_ok]
          cases (network.connector? frame).bind (·.broadcast? topic data) with
          | none =>
              rfl
          | some packet =>
              exact length_settle _
  | unicast frame topic payload destination =>
      apply guarded
      unfold unicast
      cases payload.encode topic with
      | error error =>
          rfl
      | ok data =>
          exact length_settle _
  | receiver frame topic =>
      apply guarded
      simp only [receiver]
      split <;> simp
  | receive frame ticket =>
      simp only [perform, receive]
      split <;> simp
  | drain frame ticket =>
      simp only [perform, drain]
      split <;> simp
  | dropReceiver frame ticket =>
      exact length_modify network frame _
  | close frame =>
      apply guarded
      simp [close]

theorem length_connectors_le_perform (network : Network) (now : Instant) (action : Action) :
    network.connectors.length ≤ (network.perform now action).2.connectors.length := by
  by_cases connects : ∃ displayName, action = .connect displayName
  · rcases connects with ⟨displayName, rfl⟩
    simp only [perform, connect]
    split <;> simp
  · apply Nat.le_of_eq
    exact (network.length_connectors_perform now fun name same => connects ⟨name, same⟩).symm

theorem length_connectors_le_afterActions
    (network : Network) (script : List (Instant × Action)) :
    network.connectors.length ≤ (network.afterActions script).connectors.length := by
  induction script generalizing network with
  | nil =>
      exact Nat.le_refl _
  | cons timed rest ih =>
      exact Nat.le_trans (network.length_connectors_le_perform timed.1 timed.2) (ih _)

/-- No action adds more than one connector. -/
theorem length_connectors_perform_le (network : Network) (now : Instant) (action : Action) :
    (network.perform now action).2.connectors.length ≤ network.connectors.length + 1 := by
  by_cases connects : ∃ displayName, action = .connect displayName
  · rcases connects with ⟨displayName, rfl⟩
    simp only [perform, connect]
    split <;> simp
  · have same := network.length_connectors_perform now fun name same => connects ⟨name, same⟩
    omega

theorem length_connectors_afterActions_le
    (network : Network) (script : List (Instant × Action)) :
    (network.afterActions script).connectors.length ≤
      network.connectors.length + script.length := by
  induction script generalizing network with
  | nil =>
      exact Nat.le_refl _
  | cons timed rest ih =>
      have first := network.length_connectors_perform_le timed.1 timed.2
      have later := ih (network.perform timed.1 timed.2).2
      rw [List.length_cons]
      exact Nat.le_trans later (by omega)

/-- A network gets as many connectors as the bus, even if there are too many to tell apart. -/
theorem Shows.length_connectors_perform
    (serves : Serves rel faults fits) {network : Network} {bus : Bus}
    (shown : Shows rel network bus) (now : Instant) (action : Action)
    (fit : ∀ demand ∈ network.demand? action, fits network.transport now demand) :
    (network.perform now action).2.connectors.length =
      (bus.perform action).2.connectors.length := by
  by_cases connects : ∃ displayName, action = .connect displayName
  · rcases connects with ⟨displayName, rfl⟩
    rcases serves.attach displayName now shown.transport (fit _ rfl) with ⟨answer, _⟩
    simp only [Network.perform, Network.connect, Bus.perform, Bus.connect]
    cases attached : (network.transport.withName displayName).attach now with
    | mk result transport =>
        rw [attached] at answer
        simp only at answer
        subst answer
        cases reply : bus.board.register.reply with
        | error error =>
            simp [shown.connectors]
        | ok frame =>
            simp [shown.connectors]
  · have other (displayName : Option String) : action ≠ .connect displayName :=
      fun same => connects ⟨displayName, same⟩
    rw [network.length_connectors_perform now other, bus.length_connectors_perform other,
      shown.connectors]

/-- All demands of a run fit the transport. -/
def FitsAll (fits : Transport → Instant → Demand → Prop) (network : Network) :
    List (Instant × Action) → Prop
  | [] => True
  | (now, action) :: rest =>
      (∀ demand ∈ network.demand? action, fits network.transport now demand) ∧
        FitsAll fits (network.perform now action).2 rest

/-- Whether all demands of a run fit can be found out by running it. -/
instance FitsAll.decidable
    (fits : Transport → Instant → Demand → Prop)
    [decide : ∀ transport now demand, Decidable (fits transport now demand)]
    (network : Network) :
    (script : List (Instant × Action)) → Decidable (FitsAll fits network script)
  | [] => .isTrue trivial
  | (now, action) :: rest =>
      have := decidable fits (network.perform now action).2 rest
      inferInstanceAs <| Decidable <|
        (∀ demand ∈ network.demand? action, fits network.transport now demand) ∧
          FitsAll fits (network.perform now action).2 rest

/-- The connectors of a bus can be told apart if those of a network that shows it can. -/
theorem few_of_shows
    (serves : Serves rel faults fits) {network : Network} {bus : Bus}
    (shown : Shows rel network bus) (sound : bus.Sound) (script : List (Instant × Action))
    (few : (network.afterActions script).connectors.length < UInt64.size)
    (fit : FitsAll fits network script) :
    (bus.afterActions (script.map (·.2))).connectors.length < UInt64.size := by
  induction script generalizing network bus with
  | nil =>
      exact shown.connectors ▸ few
  | cons timed rest ih =>
      rcases timed with ⟨now, action⟩
      rcases fit with ⟨fitNow, fitLater⟩
      have fewNow : (bus.perform action).2.connectors.length < UInt64.size := by
        rw [← shown.length_connectors_perform serves now action fitNow]
        exact Nat.lt_of_le_of_lt (length_connectors_le_afterActions _ rest) few
      have agrees := agrees_perform serves shown sound now action fewNow fitNow
      exact ih agrees.shows (Bus.sound_perform sound action fewNow) few fitLater

/--
A run of a network over a transport that serves it is the run of the bus: outcome by outcome, and up
to the connectors at its end.
-/
theorem run_agrees
    (serves : Serves rel faults fits) {network : Network} {bus : Bus}
    (shown : Shows rel network bus) (sound : bus.Sound) (script : List (Instant × Action))
    (few : (bus.afterActions (script.map (·.2))).connectors.length < UInt64.size)
    (fit : FitsAll fits network script) :
    (network.log script).map (fun done => (done.1, done.2.timeless)) =
        (bus.log (script.map (·.2))).map (fun done => (done.1, done.2.under faults)) ∧
      Shows rel (network.afterActions script) (bus.afterActions (script.map (·.2))) ∧
      (bus.afterActions (script.map (·.2))).Sound := by
  induction script generalizing network bus with
  | nil =>
      exact ⟨rfl, shown, sound⟩
  | cons timed rest ih =>
      rcases timed with ⟨now, action⟩
      rcases fit with ⟨fitNow, fitLater⟩
      have fewNow : (bus.perform action).2.connectors.length < UInt64.size :=
        Nat.lt_of_le_of_lt
          ((bus.perform action).2.length_connectors_le_afterActions (rest.map Prod.snd)) few
      have agrees := agrees_perform serves shown sound now action fewNow fitNow
      have soundNow := Bus.sound_perform sound action fewNow
      rcases ih agrees.shows soundNow few fitLater with ⟨logs, after, soundAfter⟩
      refine ⟨?_, after, soundAfter⟩
      simp only [log, Bus.log, List.map_cons, agrees.outcome]
      rw [logs]

end Network

end SessionBus
