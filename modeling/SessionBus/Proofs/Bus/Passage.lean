import SessionBus.Proofs.Bus.History
import SessionBus.Proofs.Bus.Refinement

/-!
# What an action does to a bus

A transport is honest if it never says of a request what the switchboard has not decided: it may
fail, or lose a request and leave it without an answer, but then the switchboard has done nothing
about sessions.  Nothing is asked about the packets that it carries, nor about the sizes of lines.

Over an honest transport there are four kinds of actions: those that leave all sessions alone, and
those by which a frame is taken in, has its claim decided, or is decided to join.  Whatever is to be
kept along a run of connectors need only be shown for these.
-/

namespace SessionBus

/-- What a transport may say of a call, with the switchboard afterwards: what the switchboard has
decided, or no decision at all, and then nothing has changed. -/
inductive Switchboard.Decides (board : Switchboard) (frame : FrameId) (now : Instant) :
    Call → Option (Except TransportError CallResult) → Switchboard → Prop
  | claimed {session : SessionId} {claimed : Bool}
      (said : (board.claim frame session now).reply = .ok claimed) :
      Decides board frame now (.claim session) (some (.ok (.claimed claimed)))
        (board.claim frame session now).board
  | joined (session : SessionId) (displayName : String) :
      Decides board frame now (.join session displayName)
        (some (.ok (.joined (board.join frame session displayName now).reply)))
        (board.join frame session displayName now).board
  | undecided {what : Call} {result : Option (Except TransportError CallResult)}
      (noClaim : ∀ claimed, result ≠ some (.ok (.claimed claimed)))
      (noJoin : ∀ joined, result ≠ some (.ok (.joined joined))) :
      Decides board frame now what result board

/--
The transport is honest about the switchboard that `rel` relates to it, and to the frames that were
ever taken in.
-/
structure Transport.Honest (rel : Transport → Switchboard → List FrameId → Prop) : Prop where
  runs :
    ∀ {transport : Transport} {board : Switchboard} {known : List FrameId},
      rel transport board known → transport.exchange.board = some board
  attach :
    ∀ {transport : Transport} {board : Switchboard} {known : List FrameId}
      (displayName : Option String) (now : Instant), rel transport board known →
        let attached := (transport.withName displayName).attach now
        (∃ error, attached.1 = .error error ∧ rel attached.2 board known) ∨
          ∃ frame, attached.1 = .ok frame ∧ board.register.reply = .ok frame ∧
            (frame ∉ known → rel attached.2 board.register.board (known ++ [frame]))
  call :
    ∀ {transport : Transport} {board : Switchboard} {known : List FrameId} (frame : FrameId)
      (now : Instant) (what : Call), rel transport board known →
        ∃ after, board.Decides frame now what (transport.call frame now what).1 after ∧
          rel (transport.call frame now what).2 after known
  send :
    ∀ {transport : Transport} {board : Switchboard} {known : List FrameId} (frame : FrameId)
      (now : Instant) (route : Route) (packet : Packet), rel transport board known →
        rel (transport.send frame now route packet) board known
  detach :
    ∀ {transport : Transport} {board : Switchboard} {known : List FrameId} (frame : FrameId)
      (now : Instant), rel transport board known →
        ∃ after : Switchboard, after.table = board.table ∧ after.nextFrame = board.nextFrame ∧
          rel (transport.detach frame now) after known
  collect :
    ∀ {transport : Transport} {board : Switchboard} {known : List FrameId} (frame : FrameId),
      rel transport board known → rel (transport.collect frame).2 board known
  resume :
    ∀ {transport : Transport} {board after : Switchboard} {known : List FrameId}
      {exchange : Exchange}, rel transport board known → exchange.board = some after →
        rel (transport.resume exchange) after known

/-- What an action does to a bus, with its outcome. -/
inductive Bus.Passage (bus : Bus) (now : Instant) : Action × Outcome TransportError → Bus → Prop
  | quiet {entry : Action × Outcome TransportError} {after : Bus}
      (noEntry : Log.entered? entry = none) (table : after.board.table = bus.board.table)
      (next : after.board.nextFrame = bus.board.nextFrame)
      (remain : Connector.Remain bus.connectors after.connectors) :
      Passage bus now entry after
  | attached (displayName : Option String) {frame : FrameId} {connectors : List Connector}
      (admitted : bus.board.register.reply = .ok frame)
      (remain : Connector.Remain (bus.connectors ++ [.attached frame]) connectors) :
      Passage bus now (.connect displayName, .connected (.ok frame))
        ⟨bus.board.register.board, connectors⟩
  | claimed {frame : FrameId} {session : SessionId} {claimed : Bool} {connectors : List Connector}
      (has : ∃ connector ∈ bus.connectors, connector.frame = frame)
      (said : (bus.board.claim frame session now).reply = .ok claimed)
      (remain :
        Connector.Remain (bus.modify frame (·.afterClaim session claimed)).connectors connectors) :
      Passage bus now (.create frame session, .decided (.ok claimed))
        ⟨(bus.board.claim frame session now).board, connectors⟩
  | joined {frame : FrameId} {session : SessionId} (displayName : String) {joined : Bool}
      {connectors : List Connector}
      (has : ∃ connector ∈ bus.connectors, connector.frame = frame)
      (said : (bus.board.join frame session displayName now).reply = joined)
      (remain :
        Connector.Remain (bus.modify frame (·.afterJoin session joined)).connectors connectors) :
      Passage bus now (.join frame session displayName, .decided (.ok joined))
        ⟨(bus.board.join frame session displayName now).board, connectors⟩

namespace Connector

theorem Stays.trans
    {first second third : Connector} (early : first.Stays second) (late : second.Stays third) :
    first.Stays third :=
  ⟨late.frame.trans early.frame, late.binding.trans early.binding,
    late.memberships.trans early.memberships, fun sound => late.router (early.router sound)⟩

theorem Remain.length
    {before after : List Connector} (remain : Remain before after) :
    after.length = before.length := by
  simpa using congrArg List.length remain.frames

theorem Remain.refl (connectors : List Connector) : Remain connectors connectors :=
  ⟨rfl, fun connector inside => ⟨connector, inside, .refl connector⟩⟩

theorem Remain.trans
    {first second third : List Connector} (early : Remain first second)
    (late : Remain second third) : Remain first third where
  frames := late.frames.trans early.frames
  each := by
    intro last inside
    rcases late.each last inside with ⟨middle, present, later⟩
    rcases early.each middle present with ⟨origin, known, earlier⟩
    exact ⟨origin, known, earlier.trans later⟩

theorem Remain.append
    {before after others changed : List Connector} (first : Remain before after)
    (second : Remain others changed) : Remain (before ++ others) (after ++ changed) where
  frames := by
    rw [List.map_append, List.map_append, first.frames, second.frames]
  each := by
    intro connector inside
    rcases List.mem_append.mp inside with left | right
    · rcases first.each connector left with ⟨origin, known, stays⟩
      exact ⟨origin, List.mem_append_left _ known, stays⟩
    · rcases second.each connector right with ⟨origin, known, stays⟩
      exact ⟨origin, List.mem_append_right _ known, stays⟩

theorem Remain.cons
    {connector changed : Connector} {before after : List Connector}
    (first : connector.Stays changed) (rest : Remain before after) :
    Remain (connector :: before) (changed :: after) := by
  have single : Remain [connector] [changed] :=
    ⟨by simp [first.frame], by simpa using first⟩
  exact single.append rest

theorem stays_foldl_dispatch (connector : Connector) (packets : List Packet) :
    connector.Stays (packets.foldl dispatch connector) := by
  induction packets generalizing connector with
  | nil =>
      exact .refl connector
  | cons packet rest ih =>
      exact (connector.stays_dispatch packet).trans (ih (connector.dispatch packet))

end Connector

namespace Bus

variable {bus : Bus}

/-- The frame that is to be taken in has no connector yet. -/
theorem Counted.newcomer
    (counted : bus.Counted) (few : bus.connectors.length + 1 < UInt64.size) {frame : FrameId}
    (admitted : bus.board.register.reply = .ok frame) :
    ∀ connector ∈ bus.connectors, connector.frame ≠ frame := by
  rcases bus.board.register_of_ok admitted with ⟨rfl, _, _⟩
  exact counted.fresh few

/-- The connector of a frame may be replaced by one that it has become. -/
theorem remain_replace
    {frame : FrameId} {connector changed : Connector}
    (found : bus.connector? frame = some connector) (stays : connector.Stays changed) :
    Connector.Remain bus.connectors (bus.modify frame fun _ => changed).connectors := by
  rcases connector?_eq_some found with ⟨inside, own⟩
  constructor
  · exact bus.frames_modify fun _ _ => stays.frame.trans own
  · intro other present
    rcases List.mem_map.mp present with ⟨before, known, rfl⟩
    split
    · exact ⟨connector, inside, stays⟩
    · exact ⟨before, known, .refl before⟩

/-- The connector of a frame may change as long as no connector enters or leaves a session by such
a change. -/
theorem remain_modify
    (frame : FrameId) {change : Connector → Connector}
    (stays : ∀ connector : Connector, connector.Stays (change connector)) :
    Connector.Remain bus.connectors (bus.modify frame change).connectors := by
  apply Connector.remain_map
  intro connector _
  split
  · exact stays connector
  · exact .refl connector

/-! ## Passages -/

namespace Passage

variable {now : Instant} {entry : Action × Outcome TransportError} {after : Bus}

/-- Whatever is done afterwards to the connectors, apart from their sessions, belongs to it. -/
theorem settled
    (passage : bus.Passage now entry after) {connectors : List Connector}
    (later : Connector.Remain after.connectors connectors) :
    bus.Passage now entry ⟨after.board, connectors⟩ := by
  cases passage with
  | quiet noEntry table next remain =>
      exact .quiet noEntry table next (remain.trans later)
  | attached displayName admitted remain =>
      exact .attached displayName admitted (remain.trans later)
  | claimed has said remain =>
      exact .claimed has said (remain.trans later)
  | joined displayName has said remain =>
      exact .joined displayName has said (remain.trans later)

/-- No other connector changes with that of a frame. -/
theorem modify_beside
    {board : Switchboard} {others own : List Connector}
    (apart : ((others ++ own).map (·.frame)).Nodup) {frame : FrameId}
    (has : ∃ connector ∈ own, connector.frame = frame) (change : Connector → Connector) :
    (modify ⟨board, others ++ own⟩ frame change).connectors =
      others ++ (modify ⟨board, own⟩ frame change).connectors := by
  rcases has with ⟨connector, inside, rfl⟩
  rw [List.map_append, List.nodup_append] at apart
  have each : ∀ other ∈ others,
      (if other.frame = connector.frame then change other else other) = other := by
    intro other present
    exact if_neg
      (apart.2.2 _ (List.mem_map_of_mem present) _ (List.mem_map_of_mem inside))
  simp only [modify, List.map_append]
  rw [List.map_congr_left each, List.map_id']

/-- What an action does to some connectors of a bus, it does to the bus. -/
theorem beside
    {board : Switchboard} {others own changed : List Connector}
    (passage : Passage ⟨board, own⟩ now entry after)
    (apart : ((others ++ own).map (·.frame)).Nodup)
    (remain : Connector.Remain others changed) :
    Passage ⟨board, others ++ own⟩ now entry ⟨after.board, changed ++ after.connectors⟩ := by
  have elsewhere : ∀ {frame : FrameId}, (∃ connector ∈ own, connector.frame = frame) →
      ∃ connector ∈ others ++ own, connector.frame = frame := by
    rintro frame ⟨connector, inside, same⟩
    exact ⟨connector, List.mem_append_right _ inside, same⟩
  cases passage with
  | quiet noEntry table next here =>
      exact .quiet noEntry table next (remain.append here)
  | attached displayName admitted here =>
      have all := remain.append here
      rw [← List.append_assoc] at all
      exact .attached displayName admitted all
  | claimed has said here =>
      have all := remain.append here
      rw [← modify_beside apart has] at all
      exact .claimed (elsewhere has) said all
  | joined displayName has said here =>
      have all := remain.append here
      rw [← modify_beside apart has] at all
      exact .joined displayName (elsewhere has) said all

/-- Identities stay apart as long as they do not run out. -/
theorem counted
    (passage : bus.Passage now entry after) (counted : bus.Counted)
    (few : after.connectors.length < UInt64.size) : after.Counted := by
  cases passage with
  | quiet noEntry table next remain =>
      exact counted.of_frames next remain.frames
  | attached displayName admitted remain =>
      rcases bus.board.register_of_ok admitted with ⟨rfl, _, next⟩
      rw [remain.length, List.length_append, List.length_singleton] at few
      exact (counted.attach few next).of_frames rfl remain.frames
  | claimed has said remain =>
      refine counted.of_frames (bus.board.steady_claim _ _ _).next ?_
      exact remain.frames.trans
        (bus.frames_modify fun connector own =>
          (connector.kept_afterClaim _ _).frame.trans own)
  | joined displayName has said remain =>
      refine counted.of_frames rfl ?_
      exact remain.frames.trans
        (bus.frames_modify fun connector own =>
          (connector.kept_afterJoin _ _).frame.trans own)

end Passage

end Bus

namespace Network

/-- The network has the connectors of the bus, and its transport knows their frames and the
switchboard. -/
structure Views
    (rel : Transport → Switchboard → List FrameId → Prop) (network : Network) (bus : Bus) :
    Prop where
  connectors : network.connectors = bus.connectors
  transport : rel network.transport bus.board (bus.connectors.map (·.frame))

variable {rel : Transport → Switchboard → List FrameId → Prop} {network : Network} {bus : Bus}

/-- One more connector passes on the packets that have come for its frame. -/
def passOn (passed : Transport × List Connector) (connector : Connector) :
    Transport × List Connector :=
  ((passed.1.collect connector.frame).2,
    passed.2 ++ [(passed.1.collect connector.frame).1.foldl Connector.dispatch connector])

theorem settle_eq_foldl (network : Network) :
    network.settle =
      ⟨(network.connectors.foldl passOn (network.transport, [])).1,
        (network.connectors.foldl passOn (network.transport, [])).2⟩ :=
  rfl

theorem foldl_passOn_remain
    (honest : Transport.Honest rel) {board : Switchboard} {known : List FrameId}
    (connectors : List Connector) {transport : Transport} (done : List Connector)
    (related : rel transport board known) :
    rel (connectors.foldl passOn (transport, done)).1 board known ∧
      ∃ after, (connectors.foldl passOn (transport, done)).2 = done ++ after ∧
        Connector.Remain connectors after := by
  induction connectors generalizing transport done with
  | nil =>
      exact ⟨related, [], (List.append_nil done).symm, .refl []⟩
  | cons connector rest ih =>
      let packets := (transport.collect connector.frame).1
      obtain ⟨left, after, split, remain⟩ :=
        ih (passOn (transport, done) connector).2 (honest.collect connector.frame related)
      refine ⟨left, packets.foldl Connector.dispatch connector :: after, ?_,
        .cons (connector.stays_foldl_dispatch packets) remain⟩
      exact split.trans (List.append_assoc done [_] after)

/-- Passing packets on leaves the sessions of all connectors alone. -/
theorem settle_remain
    (honest : Transport.Honest rel) (network : Network) {board : Switchboard}
    {known : List FrameId} (related : rel network.transport board known) :
    rel network.settle.transport board known ∧
      Connector.Remain network.connectors network.settle.connectors := by
  obtain ⟨left, after, split, remain⟩ :=
    foldl_passOn_remain honest network.connectors [] related
  rw [settle_eq_foldl]
  refine ⟨left, ?_⟩
  rw [split, List.nil_append]
  exact remain

/-- Once the packets are passed on, the network views a bus whose connectors have remained. -/
theorem views_settle
    (honest : Transport.Honest rel) (network : Network) {board : Switchboard}
    (related : rel network.transport board (network.connectors.map (·.frame))) :
    ∃ connectors, Connector.Remain network.connectors connectors ∧
      Views rel network.settle ⟨board, connectors⟩ := by
  rcases settle_remain honest network related with ⟨left, remain⟩
  refine ⟨_, remain, rfl, ?_⟩
  simp only [remain.frames]
  exact left

/-- The same after the connector of a frame has changed. -/
theorem views_settle_modify
    (honest : Transport.Honest rel) (views : Views rel network bus) {transport : Transport}
    {board : Switchboard} (related : rel transport board (bus.connectors.map (·.frame)))
    {frame : FrameId} {change : Connector → Connector}
    (kept : ∀ connector : Connector, connector.frame = frame → (change connector).frame = frame) :
    ∃ connectors, Connector.Remain (bus.modify frame change).connectors connectors ∧
      Views rel (({ network with transport } : Network).modify frame change).settle
        ⟨board, connectors⟩ := by
  have changed : (({ network with transport } : Network).modify frame change).connectors =
      (bus.modify frame change).connectors := by
    simp only [modify, Bus.modify, views.connectors]
  rw [← bus.frames_modify kept, ← changed] at related
  rw [← changed]
  exact views_settle honest (({ network with transport } : Network).modify frame change) related

/-- Nothing has come of an action, but for the packets that were passed on. -/
theorem quiet_settle
    (honest : Transport.Honest rel) {board : Switchboard} (views : Views rel network bus)
    {transport : Transport} (related : rel transport board (bus.connectors.map (·.frame)))
    (table : board.table = bus.board.table) (next : board.nextFrame = bus.board.nextFrame)
    (now : Instant) {entry : Action × Outcome TransportError}
    (noEntry : Log.entered? entry = none) :
    ∃ after, bus.Passage now entry after ∧
      Views rel ({ network with transport } : Network).settle after := by
  rw [← views.connectors] at related
  rcases views_settle honest { network with transport } related with ⟨connectors, remain, after⟩
  rw [views.connectors] at remain
  exact ⟨⟨board, connectors⟩, .quiet noEntry table next remain, after⟩

/-- The connectors have changed, but their transport has not been used. -/
theorem quiet_modify
    (views : Views rel network bus) {frame : FrameId} {change : Connector → Connector}
    (remain : Connector.Remain bus.connectors (bus.modify frame change).connectors)
    (now : Instant) {entry : Action × Outcome TransportError}
    (noEntry : Log.entered? entry = none) :
    ∃ after, bus.Passage now entry after ∧ Views rel (network.modify frame change) after := by
  refine ⟨bus.modify frame change, .quiet noEntry rfl rfl remain, ?_, ?_⟩
  · simp only [modify, Bus.modify, views.connectors]
  · rw [remain.frames]
    exact views.transport

theorem connector?_eq
    (views : Views rel network bus) (frame : FrameId) :
    network.connector? frame = bus.connector? frame := by
  unfold Network.connector? Bus.connector?
  rw [views.connectors]

/-- The receivers of one connector have changed. -/
theorem quiet_replace
    (views : Views rel network bus) {frame : FrameId} {connector changed : Connector}
    (found : network.connector? frame = some connector) (stays : connector.Stays changed)
    (now : Instant) {entry : Action × Outcome TransportError}
    (noEntry : Log.entered? entry = none) :
    ∃ after, bus.Passage now entry after ∧
      Views rel (network.modify frame fun _ => changed) after := by
  rw [connector?_eq views] at found
  exact quiet_modify views (Bus.remain_replace found stays) now noEntry

theorem exists_mem_of_isOpen
    (views : Views rel network bus) {frame : FrameId} (isOpen : network.isOpen frame = true) :
    ∃ connector ∈ bus.connectors, connector.frame = frame := by
  apply Bus.exists_mem_of_isOpen
  rw [Bus.isOpen, ← connector?_eq views]
  exact isOpen

/-- Others have used the exchange, and the connectors have got the packets that were for them. -/
theorem views_resume
    (honest : Transport.Honest rel) (views : Views rel network bus) {exchange : Exchange}
    {board : Switchboard} (runs : exchange.board = some board) :
    ∃ connectors, Connector.Remain bus.connectors connectors ∧
      Views rel (network.resume exchange) ⟨board, connectors⟩ := by
  have resumed := honest.resume views.transport runs
  rw [← views.connectors] at resumed ⊢
  exact views_settle honest { network with transport := network.transport.resume exchange } resumed

/-! ## Actions -/

theorem passage_connect
    (honest : Transport.Honest rel) (views : Views rel network bus) (displayName : Option String)
    (now : Instant)
    (fresh : network.connectors.length <
        (network.perform now (.connect displayName)).2.connectors.length →
      ∀ frame, bus.board.register.reply = .ok frame → frame ∉ bus.connectors.map (·.frame)) :
    let done := network.perform now (.connect displayName)
    ∃ after, bus.Passage now (.connect displayName, done.1) after ∧ Views rel done.2 after := by
  simp only [perform, connect] at fresh ⊢
  obtain ⟨error, refused, related⟩ | ⟨frame, granted, admitted, related⟩ :=
    honest.attach displayName now views.transport
  · generalize (network.transport.withName displayName).attach now = attached at *
    rcases attached with ⟨result, transport⟩
    simp only at refused related
    subst refused
    exact quiet_settle honest views related rfl rfl now rfl
  · generalize (network.transport.withName displayName).attach now = attached at *
    rcases attached with ⟨result, transport⟩
    simp only at granted related
    subst granted
    have taken := related (fresh (by simp [length_settle]) frame admitted)
    have known : network.connectors ++ [Connector.attached frame] =
        bus.connectors ++ [.attached frame] := by
      rw [views.connectors]
    have grown : rel transport bus.board.register.board
        ((network.connectors ++ [Connector.attached frame]).map (·.frame)) := by
      rw [known, List.map_append]
      exact taken
    rcases views_settle honest ⟨transport, network.connectors ++ [.attached frame]⟩ grown with
      ⟨connectors, remain, after⟩
    exact ⟨_, .attached displayName admitted (known ▸ remain), after⟩

theorem passage_create
    (honest : Transport.Honest rel) (views : Views rel network bus) {frame : FrameId}
    (has : ∃ connector ∈ bus.connectors, connector.frame = frame) (now : Instant)
    (session : SessionId) :
    let done := network.create frame now session
    ∃ after,
      bus.Passage now (.create frame session, done.1.elim .unanswered .decided) after ∧
        Views rel done.2 after := by
  obtain ⟨board, decides, related⟩ := honest.call frame now (.claim session) views.transport
  simp only [create, call]
  generalize network.transport.call frame now (.claim session) = answered at *
  rcases answered with ⟨result, transport⟩
  cases decides with
  | @claimed _ claimed said =>
      have kept : ∀ connector : Connector, connector.frame = frame →
          (connector.afterClaim session claimed).frame = frame :=
        fun connector own => (connector.kept_afterClaim session claimed).frame.trans own
      rcases views_settle_modify honest views related kept with ⟨connectors, remain, after⟩
      exact ⟨_, .claimed has said remain, after⟩
  | undecided noClaim noJoin =>
      rcases result with _ | error | (claimed | _ | _)
      · exact quiet_settle honest views related rfl rfl now rfl
      · exact quiet_settle honest views related rfl rfl now rfl
      · exact absurd rfl (noClaim claimed)
      · exact quiet_settle honest views related rfl rfl now rfl
      · exact quiet_settle honest views related rfl rfl now rfl

theorem passage_join
    (honest : Transport.Honest rel) (views : Views rel network bus) {frame : FrameId}
    (has : ∃ connector ∈ bus.connectors, connector.frame = frame) (now : Instant)
    (session : SessionId) (displayName : String) :
    let done := network.join frame now session displayName
    ∃ after,
      bus.Passage now (.join frame session displayName, done.1.elim .unanswered .decided) after ∧
        Views rel done.2 after := by
  obtain ⟨board, decides, related⟩ :=
    honest.call frame now (.join session displayName) views.transport
  simp only [join, call]
  generalize network.transport.call frame now (.join session displayName) = answered at *
  rcases answered with ⟨result, transport⟩
  cases decides with
  | joined =>
      let joined := (bus.board.join frame session displayName now).reply
      have kept : ∀ connector : Connector, connector.frame = frame →
          (connector.afterJoin session joined).frame = frame :=
        fun connector own => (connector.kept_afterJoin session joined).frame.trans own
      rcases views_settle_modify honest views related kept with ⟨connectors, remain, after⟩
      exact ⟨_, .joined displayName has rfl remain, after⟩
  | undecided noClaim noJoin =>
      rcases result with _ | error | (_ | joined | _)
      · exact quiet_settle honest views related rfl rfl now rfl
      · exact quiet_settle honest views related rfl rfl now rfl
      · exact quiet_settle honest views related rfl rfl now rfl
      · exact absurd rfl (noJoin joined)
      · exact quiet_settle honest views related rfl rfl now rfl

theorem passage_describe
    (honest : Transport.Honest rel) (views : Views rel network bus) (frame : FrameId)
    (now : Instant) (session : SessionId) :
    let done := network.describe frame now session
    ∃ after,
      bus.Passage now (.describe frame session, done.1.elim .unanswered .described) after ∧
        Views rel done.2 after := by
  obtain ⟨board, decides, related⟩ := honest.call frame now (.describe session) views.transport
  simp only [describe, call]
  generalize network.transport.call frame now (.describe session) = answered at *
  rcases answered with ⟨result, transport⟩
  cases decides
  rcases result with _ | error | (_ | _ | found) <;>
    exact quiet_settle honest views related rfl rfl now rfl

/-- A packet is sent, or nothing at all. -/
theorem quiet_send
    (honest : Transport.Honest rel) (views : Views rel network bus) (frame : FrameId)
    (now : Instant) (route : Route) (packet : Packet)
    {entry : Action × Outcome TransportError} (noEntry : Log.entered? entry = none) :
    ∃ after, bus.Passage now entry after ∧
      Views rel (network.send frame now route packet) after :=
  quiet_settle honest views (honest.send frame now route packet views.transport) rfl rfl now
    noEntry

theorem passage_close
    (honest : Transport.Honest rel) (views : Views rel network bus) (frame : FrameId)
    (now : Instant) :
    ∃ after, bus.Passage now (.close frame, .done) after ∧
      Views rel (network.close frame now) after := by
  obtain ⟨board, table, next, related⟩ := honest.detach frame now views.transport
  have closed : Connector.Remain bus.connectors (bus.modify frame Connector.close).connectors :=
    Bus.remain_modify frame Connector.stays_close
  rcases views_settle_modify honest views related fun connector own =>
    (Connector.stays_close connector).frame.trans own with ⟨connectors, remain, after⟩
  exact ⟨_, .quiet rfl table next (closed.trans remain), after⟩

/-- Over an honest transport every action is one of the four kinds, whatever its outcome. -/
theorem passage_perform
    (honest : Transport.Honest rel) (views : Views rel network bus) (now : Instant)
    (action : Action)
    (fresh : network.connectors.length < (network.perform now action).2.connectors.length →
      ∀ frame, bus.board.register.reply = .ok frame → frame ∉ bus.connectors.map (·.frame)) :
    ∃ after, bus.Passage now (action, (network.perform now action).1) after ∧
      Views rel (network.perform now action).2 after := by
  have unchanged : ∀ outcome, Log.entered? (action, outcome) = none →
      ∃ after, bus.Passage now (action, outcome) after ∧ Views rel network after :=
    fun outcome noEntry => ⟨bus, .quiet noEntry rfl rfl (.refl _), views⟩
  have guarded (frame : FrameId) (act : Outcome TransportError × Network)
      (done : network.isOpen frame = true →
        ∃ after, bus.Passage now (action, act.1) after ∧ Views rel act.2 after) :
      ∃ after, bus.Passage now (action, (network.ifOpen frame act).1) after ∧
        Views rel (network.ifOpen frame act).2 after :=
    ifOpen_cases (motive := fun answered =>
        ∃ after, bus.Passage now (action, answered.1) after ∧ Views rel answered.2 after)
      done (unchanged .noConnector (by cases action <;> rfl))
  cases action with
  | connect displayName =>
      exact passage_connect honest views displayName now fresh
  | create frame session =>
      exact guarded frame _ fun isOpen =>
        passage_create honest views (exists_mem_of_isOpen views isOpen) now session
  | join frame session displayName =>
      exact guarded frame _ fun isOpen =>
        passage_join honest views (exists_mem_of_isOpen views isOpen) now session displayName
  | describe frame session =>
      exact guarded frame _ fun _ => passage_describe honest views frame now session
  | broadcast frame topic payload =>
      apply guarded
      intro _
      unfold broadcast
      cases payload.encode topic with
      | error error =>
          exact unchanged _ rfl
      | ok data =>
          simp only [Fallible.ok_bind, Fallible.pure_eq_ok]
          cases (network.connector? frame).bind (·.broadcast? topic data) with
          | none =>
              exact unchanged _ rfl
          | some packet =>
              exact quiet_send honest views frame now _ packet rfl
  | unicast frame topic payload destination =>
      apply guarded
      intro _
      unfold unicast
      cases payload.encode topic with
      | error error =>
          exact unchanged _ rfl
      | ok data =>
          exact quiet_send honest views frame now _ _ rfl
  | receiver frame topic =>
      apply guarded
      intro _
      simp only [receiver]
      cases found : network.connector? frame with
      | none =>
          exact unchanged _ rfl
      | some connector =>
          exact quiet_replace views found (connector.stays_receiver topic) now rfl
  | receive frame ticket =>
      simp only [perform, receive]
      cases found : network.connector? frame with
      | none =>
          exact unchanged _ rfl
      | some connector =>
          exact quiet_replace views found (connector.stays_receive ticket) now rfl
  | drain frame ticket =>
      simp only [perform, drain]
      cases found : network.connector? frame with
      | none =>
          exact unchanged _ rfl
      | some connector =>
          exact quiet_replace views found (connector.stays_drain ticket) now rfl
  | dropReceiver frame ticket =>
      exact quiet_modify views (Bus.remain_modify frame fun connector =>
        connector.stays_drop ticket) now rfl
  | close frame =>
      exact guarded frame _ fun _ => passage_close honest views frame now

/-! ## Runs -/

/-- What every passage keeps holds after every run, as long as identities do not run out. -/
theorem kept_afterActions
    (honest : Transport.Honest rel) (Inv : Log TransportError → Bus → Prop)
    (kept : ∀ {log : Log TransportError} {bus after : Bus} {now : Instant}
      {entry : Action × Outcome TransportError},
      bus.Counted → after.connectors.length < UInt64.size → Inv log bus →
        bus.Passage now entry after → Inv (log ++ [entry]) after)
    {past : Log TransportError} (views : Views rel network bus) (counted : bus.Counted)
    (holds : Inv past bus) (script : List (Instant × Action))
    (few : (network.afterActions script).connectors.length < UInt64.size) :
    ∃ after, Views rel (network.afterActions script) after ∧ after.Counted ∧
      Inv (past ++ network.log script) after := by
  induction script generalizing network bus past with
  | nil =>
      refine ⟨bus, views, counted, ?_⟩
      rw [log, List.append_nil]
      exact holds
  | cons timed rest ih =>
      rcases timed with ⟨now, action⟩
      have fewNow : (network.perform now action).2.connectors.length < UInt64.size :=
        Nat.lt_of_le_of_lt (length_connectors_le_afterActions _ rest) few
      have fresh : network.connectors.length < (network.perform now action).2.connectors.length →
          ∀ frame, bus.board.register.reply = .ok frame →
            frame ∉ bus.connectors.map (·.frame) := by
        intro grows frame admitted inside
        rcases List.mem_map.mp inside with ⟨connector, present, same⟩
        rw [views.connectors] at grows
        exact counted.newcomer (Nat.lt_of_le_of_lt grows fewNow) admitted connector present same
      obtain ⟨after, passage, viewsAfter⟩ := passage_perform honest views now action fresh
      rw [viewsAfter.connectors] at fewNow
      have held := kept counted fewNow holds passage
      rw [show past ++ network.log ((now, action) :: rest) = _ from
        (List.append_assoc past [_] _).symm]
      exact ih viewsAfter (passage.counted counted fewNow) held few

end Network

end SessionBus
