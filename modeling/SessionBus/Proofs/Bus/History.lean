import SessionBus.Proofs.Bus.Sound
import SessionBus.Proofs.Topic.Router

/-!
# What the log of a bus tells

The log of a run tells which session a frame works in, which sessions it has entered, and so which
packets are meant for it: those that other frames have sent to it, and the broadcasts of other
frames in sessions that it had entered by then.  `deliveries` lists the packets that a receiver is
to get; it looks at nothing but the log.

The main statements say that the connectors of a bus know what the log tells of their frames.
-/

namespace SessionBus

/-- The actions of a run with their outcomes. -/
abbrev Log (ε : Type) := List (Action × Outcome ε)

namespace Log

variable {ε : Type}

/-- The frame that enters a session, by creating or joining it, and that session. -/
def entered? : Action × Outcome ε → Option (FrameId × SessionId)
  | (.create frame session, .decided (.ok true)) => some (frame, session)
  | (.join frame session _, .decided (.ok true)) => some (frame, session)
  | _ => none

def hasEntered (log : Log ε) (frame : FrameId) (session : SessionId) : Bool :=
  (log.filterMap entered?).contains (frame, session)

/-- The session that a frame works in: the last one that it has entered. -/
def current? (log : Log ε) (frame : FrameId) : Option SessionId :=
  (log.filterMap entered?).reverse.lookup frame

def closes (frame : FrameId) : Action × Outcome ε → Bool
  | (.close other, .done) => other == frame
  | _ => false

/-- The packet that an entry of the log sends to the receivers of a frame on a topic, if there is
one; `past` is the log before it. -/
def meantFor? (past : Log ε) (frame : FrameId) (topic : String) :
    Action × Outcome ε → Option Packet
  | (.broadcast sender subject payload, .sent (.ok ())) =>
      match past.current? sender, payload.encode subject with
      | some session, .ok data =>
          if subject = topic ∧ sender ≠ frame ∧ past.hasEntered frame session = true then
            some (.ofSession subject data sender session)
          else none
      | _, _ => none
  | (.unicast sender subject payload destination, .sent (.ok ())) =>
      match payload.encode subject with
      | .ok data =>
          if subject = topic ∧ sender ≠ frame ∧ destination = frame then
            some (.toFrame subject data sender destination)
          else none
      | .error _ => none
  | _ => none

/-- The packets that a receiver of a frame on a topic is to get until its connector is closed. -/
def deliveries (past : Log ε) (frame : FrameId) (topic : String) : Log ε → List Packet
  | [] => []
  | entry :: rest =>
      if closes frame entry then []
      else
        (past.meantFor? frame topic entry).toList ++
          deliveries (past ++ [entry]) frame topic rest

/-- The packets that an entry takes from a receiver. -/
def takes (frame : FrameId) (ticket : Ticket) : Action × Outcome ε → List Packet
  | (.receive other used, .yielded packets) =>
      if other = frame ∧ used = ticket then packets else []
  | (.drain other used, .yielded packets) =>
      if other = frame ∧ used = ticket then packets else []
  | _ => []

def yields (frame : FrameId) (ticket : Ticket) (log : Log ε) : List Packet :=
  log.flatMap (takes frame ticket)

/-- A frame is sent nothing by closing its connector. -/
theorem meantFor?_of_closes
    (past : Log ε) {frame : FrameId} (topic : String) {entry : Action × Outcome ε}
    (closing : closes frame entry = true) : past.meantFor? frame topic entry = none := by
  rcases entry with ⟨action, outcome⟩
  cases action with
  | close other =>
      rfl
  | _ =>
      simp [closes] at closing

/-! ## One entry more -/

theorem hasEntered_append_of_none
    (log : Log ε) {entry : Action × Outcome ε} (noEntry : entered? entry = none)
    (frame : FrameId) (session : SessionId) :
    (log ++ [entry]).hasEntered frame session = log.hasEntered frame session := by
  simp [hasEntered, List.filterMap_append, noEntry]

theorem current?_append_of_none
    (log : Log ε) {entry : Action × Outcome ε} (noEntry : entered? entry = none)
    (frame : FrameId) :
    (log ++ [entry]).current? frame = log.current? frame := by
  simp [current?, List.filterMap_append, noEntry]

theorem hasEntered_append_of_some
    (log : Log ε) {entry : Action × Outcome ε} {entering : FrameId} {entered : SessionId}
    (enters : entered? entry = some (entering, entered)) (frame : FrameId) (session : SessionId) :
    (log ++ [entry]).hasEntered frame session = true ↔
      log.hasEntered frame session = true ∨ frame = entering ∧ session = entered := by
  simp [hasEntered, List.filterMap_append, enters]

theorem current?_append_of_some
    (log : Log ε) {entry : Action × Outcome ε} {entering : FrameId} {entered : SessionId}
    (enters : entered? entry = some (entering, entered)) (frame : FrameId) :
    (log ++ [entry]).current? frame =
      if frame = entering then some entered else log.current? frame := by
  simp only [current?, List.filterMap_append, enters, List.filterMap_cons, List.filterMap_nil,
    List.reverse_append, List.reverse_singleton, List.singleton_append, List.lookup_cons]
  by_cases same : frame = entering
  · simp [same]
  · have skipped : (frame == entering) = false := by
      simpa using same
    simp [same, skipped]

end Log

namespace Connector

/-- A connector that has changed without entering or leaving a session. -/
structure Stays (connector changed : Connector) : Prop where
  frame : changed.frame = connector.frame
  binding : changed.binding = connector.binding
  memberships : changed.memberships = connector.memberships
  router : connector.topics.Sound → changed.topics.Sound

theorem Stays.refl (connector : Connector) : connector.Stays connector :=
  ⟨rfl, rfl, rfl, id⟩

theorem stays_dispatch (connector : Connector) (packet : Packet) :
    connector.Stays (connector.dispatch packet) := by
  unfold dispatch
  split
  · exact .refl connector
  · rename_i unclosed
    split
    · exact ⟨rfl, rfl, rfl, fun sound =>
        TopicRouter.sound_publish sound (Bool.eq_false_iff.mpr unclosed) packet⟩
    · exact .refl connector

theorem stays_receiver (connector : Connector) (topic : String) :
    connector.Stays (connector.receiver topic).2 :=
  ⟨rfl, rfl, rfl, fun sound => TopicRouter.sound_subscribe sound topic⟩

theorem stays_receive (connector : Connector) (ticket : Ticket) :
    connector.Stays { connector with topics := (connector.topics.receive ticket).2 } :=
  ⟨rfl, rfl, rfl, fun sound => TopicRouter.sound_receive sound ticket⟩

theorem stays_drain (connector : Connector) (ticket : Ticket) :
    connector.Stays { connector with topics := (connector.topics.drain ticket).2 } :=
  ⟨rfl, rfl, rfl, fun sound => TopicRouter.sound_drain sound ticket⟩

theorem stays_drop (connector : Connector) (ticket : Ticket) :
    connector.Stays { connector with topics := connector.topics.drop ticket } :=
  ⟨rfl, rfl, rfl, fun sound => TopicRouter.sound_drop sound ticket⟩

theorem stays_close (connector : Connector) : connector.Stays connector.close :=
  ⟨rfl, rfl, rfl, TopicRouter.sound_close⟩

/-- Connectors that have become others, frame by frame, without entering or leaving a session. -/
structure Remain (before after : List Connector) : Prop where
  frames : after.map (·.frame) = before.map (·.frame)
  each : ∀ changed ∈ after, ∃ connector ∈ before, connector.Stays changed

theorem remain_map
    {connectors : List Connector} {change : Connector → Connector}
    (stays : ∀ connector ∈ connectors, connector.Stays (change connector)) :
    Remain connectors (connectors.map change) where
  frames := by
    rw [List.map_map]
    exact List.map_congr_left fun connector inside => (stays connector inside).frame
  each := by
    simp only [List.forall_mem_map]
    exact fun connector inside => ⟨connector, inside, stays connector inside⟩

/-- A connector that has changed by entering a session. -/
structure Enters (session : SessionId) (connector changed : Connector) : Prop where
  frame : changed.frame = connector.frame
  binding : changed.binding.session? = some session
  memberships : changed.memberships = connector.withMembership session
  router : changed.topics = connector.topics

theorem enters_afterClaim (connector : Connector) (session : SessionId) :
    connector.Enters session (connector.afterClaim session true) :=
  ⟨rfl, rfl, rfl, rfl⟩

theorem enters_afterJoin (connector : Connector) (session : SessionId) :
    connector.Enters session (connector.afterJoin session true) := by
  constructor
  · rfl
  · simp only [afterJoin, if_true]
    split <;> rfl
  · rfl
  · rfl

theorem Enters.isMember
    {session : SessionId} {connector changed : Connector}
    (enters : Enters session connector changed) (other : SessionId) :
    changed.isMember other = true ↔ connector.isMember other = true ∨ other = session := by
  unfold Connector.isMember
  rw [enters.memberships, withMembership]
  split
  · rename_i already
    constructor
    · exact Or.inl
    · rintro (member | rfl)
      · exact member
      · exact already
  · simp

end Connector

namespace Bus

/-- The connectors know what the log tells of their frames, and it tells of no other frames. -/
structure Remembers {ε : Type} (log : Log ε) (bus : Bus) : Prop where
  working :
    ∀ connector ∈ bus.connectors, connector.binding.session? = log.current? connector.frame
  memberships :
    ∀ connector ∈ bus.connectors, ∀ session,
      connector.isMember session = true ↔ log.hasEntered connector.frame session = true
  known :
    ∀ entry ∈ log.filterMap Log.entered?, ∃ connector ∈ bus.connectors,
      connector.frame = entry.1
  routers : ∀ connector ∈ bus.connectors, connector.topics.Sound

theorem remembers_start {ε : Type} (limits : Limits) :
    (start limits).Remembers ([] : Log ε) where
  working := by simp [start]
  memberships := by simp [start]
  known := by simp
  routers := by simp [start]

section

variable {ε : Type} {log : Log ε} {bus : Bus}

/-- A frame without a connector has entered no session. -/
theorem Remembers.not_entered
    (remembers : bus.Remembers log) {frame : FrameId}
    (unknown : ∀ connector ∈ bus.connectors, connector.frame ≠ frame) :
    log.current? frame = none ∧ ∀ session, log.hasEntered frame session = false := by
  have foreign : ∀ entry ∈ log.filterMap Log.entered?, entry.1 ≠ frame := by
    intro entry inside same
    rcases remembers.known entry inside with ⟨connector, found, owns⟩
    exact unknown connector found (owns.trans same)
  constructor
  · unfold Log.current?
    rw [List.lookup_eq_none_iff]
    intro entry inside
    have different := foreign entry (List.mem_reverse.mp inside)
    simpa using different.symm
  · intro session
    rw [Log.hasEntered, List.contains_eq_mem, decide_eq_false_iff_not]
    intro inside
    exact foreign _ inside rfl

/-- Connectors may change as long as none of them enters a session. -/
theorem Remembers.remain
    (remembers : bus.Remembers log) (board : Switchboard) {connectors : List Connector}
    (remain : Connector.Remain bus.connectors connectors) :
    Remembers log ⟨board, connectors⟩ where
  working := by
    intro changed inside
    rcases remain.each changed inside with ⟨connector, before, stays⟩
    rw [stays.frame, stays.binding]
    exact remembers.working connector before
  memberships := by
    intro changed inside session
    rcases remain.each changed inside with ⟨connector, before, stays⟩
    rw [stays.frame, Connector.isMember, stays.memberships]
    exact remembers.memberships connector before session
  known := by
    intro entered inside
    rcases remembers.known entered inside with ⟨connector, found, owns⟩
    have frame : connector.frame ∈ connectors.map (·.frame) :=
      remain.frames ▸ List.mem_map_of_mem found
    rcases List.mem_map.mp frame with ⟨changed, present, same⟩
    exact ⟨changed, present, same.trans owns⟩
  routers := by
    intro changed inside
    rcases remain.each changed inside with ⟨connector, before, stays⟩
    exact stays.router (remembers.routers connector before)

/-- An entry that is no entrance tells nothing new. -/
theorem Remembers.later
    (remembers : bus.Remembers log) {entry : Action × Outcome ε}
    (noEntry : Log.entered? entry = none) : bus.Remembers (log ++ [entry]) where
  working := by
    intro connector inside
    rw [Log.current?_append_of_none log noEntry]
    exact remembers.working connector inside
  memberships := by
    intro connector inside session
    rw [Log.hasEntered_append_of_none log noEntry]
    exact remembers.memberships connector inside session
  known := by
    rw [List.filterMap_append, List.filterMap_cons_none noEntry, List.filterMap_nil,
      List.append_nil]
    exact remembers.known
  routers := remembers.routers

/-- A frame that has entered nothing gets a connector that belongs to no session. -/
theorem Remembers.attach
    (remembers : bus.Remembers log) (board : Switchboard) {frame : FrameId}
    (unknown : ∀ connector ∈ bus.connectors, connector.frame ≠ frame) :
    Remembers log ⟨board, bus.connectors ++ [.attached frame]⟩ := by
  rcases remembers.not_entered unknown with ⟨idle, outside⟩
  constructor
  · intro connector inside
    rcases List.mem_append.mp inside with old | new
    · exact remembers.working connector old
    · rcases List.mem_singleton.mp new with rfl
      exact idle.symm
  · intro connector inside session
    rcases List.mem_append.mp inside with old | new
    · exact remembers.memberships connector old session
    · rcases List.mem_singleton.mp new with rfl
      simp [Connector.attached, Connector.isMember, outside session]
  · intro entered inside
    rcases remembers.known entered inside with ⟨connector, found, owns⟩
    exact ⟨connector, List.mem_append_left _ found, owns⟩
  · intro connector inside
    rcases List.mem_append.mp inside with old | new
    · exact remembers.routers connector old
    · rcases List.mem_singleton.mp new with rfl
      exact TopicRouter.sound_empty

/-- The connector of a frame may change as long as it does not enter a session. -/
theorem Remembers.modify
    (remembers : bus.Remembers log) {entry : Action × Outcome ε}
    (noEntry : Log.entered? entry = none) (sound : bus.Sound) (board : Switchboard)
    {frame : FrameId} {change : Connector → Connector}
    (stays : ∀ connector, bus.connector? frame = some connector →
      connector.Stays (change connector)) :
    ({ bus with board }.modify frame change).Remembers (log ++ [entry]) := by
  refine (remembers.remain board (Connector.remain_map fun connector inside => ?_)).later noEntry
  split
  · rename_i same
    apply stays
    rw [← same]
    exact connector?_of_mem sound inside
  · exact .refl connector

/-- The switchboard does not matter. -/
theorem Remembers.withBoard
    (remembers : bus.Remembers log) (board : Switchboard) : Remembers log { bus with board } :=
  ⟨remembers.working, remembers.memberships, remembers.known, remembers.routers⟩

theorem Remembers.enter
    (remembers : bus.Remembers log) {entry : Action × Outcome ε}
    {frame : FrameId} {session : SessionId} (entered : Log.entered? entry = some (frame, session))
    (has : ∃ connector ∈ bus.connectors, connector.frame = frame) (board : Switchboard)
    {change : Connector → Connector}
    (enters : ∀ connector, Connector.Enters session connector (change connector)) :
    ({ bus with board }.modify frame change).Remembers (log ++ [entry]) where
  working := by
    simp only [Bus.modify, List.forall_mem_map]
    intro connector inside
    rw [Log.current?_append_of_some log entered]
    split
    · rename_i same
      rw [(enters connector).frame, (enters connector).binding, if_pos same]
    · exact remembers.working connector inside
  memberships := by
    simp only [Bus.modify, List.forall_mem_map]
    intro connector inside other
    rw [Log.hasEntered_append_of_some log entered]
    split
    · rename_i same
      rw [(enters connector).isMember, remembers.memberships connector inside,
        (enters connector).frame]
      simp [same]
    · rename_i different
      rw [remembers.memberships connector inside]
      simp [different]
  -- Who has entered a session has a connector, and so has the frame of the new entry.
  known := by
    have kept : ∀ connector, (if connector.frame = frame then change connector
        else connector).frame = connector.frame := by
      intro connector
      split
      · exact (enters connector).frame
      · rfl
    have found : ∀ connector ∈ bus.connectors,
        ∃ changed ∈ ({ bus with board }.modify frame change).connectors,
          changed.frame = connector.frame :=
      fun connector inside => ⟨_, List.mem_map_of_mem inside, kept connector⟩
    intro entered' inside
    simp only [List.filterMap_append, List.filterMap_cons, entered, List.filterMap_nil,
      List.mem_append, List.mem_singleton] at inside
    rcases inside with old | rfl
    · rcases remembers.known entered' old with ⟨connector, inside, owns⟩
      exact owns ▸ found connector inside
    · rcases has with ⟨connector, inside, owns⟩
      exact owns ▸ found connector inside
  routers := by
    simp only [Bus.modify, List.forall_mem_map]
    intro connector inside
    split
    · rw [(enters connector).router]
      exact remembers.routers connector inside
    · exact remembers.routers connector inside

end

/-! ## Actions -/

variable {log : Log SwitchboardError} {bus : Bus}

theorem remembers_connect
    (remembers : bus.Remembers log) (sound : bus.Sound) (displayName : Option String)
    (few : bus.connect.2.connectors.length < UInt64.size) :
    bus.connect.2.Remembers (log ++ [(.connect displayName, bus.connect.1)]) := by
  have soundAfter := sound_connect sound few
  unfold connect at soundAfter ⊢
  cases reply : bus.board.register.reply with
  | error error =>
      simp only [reply]
      exact (remembers.withBoard _).later rfl
  | ok frame =>
      simp only [reply] at soundAfter ⊢
      have unknown : ∀ connector ∈ bus.connectors, connector.frame ≠ frame :=
        (Keyed.apart_append.mp soundAfter.apart).2
      exact (remembers.attach _ unknown).later rfl

theorem remembers_create
    (remembers : bus.Remembers log) (sound : bus.Sound) {frame : FrameId}
    (isOpen : bus.isOpen frame = true) (session : SessionId) :
    (bus.create frame session).2.Remembers
      (log ++ [(.create frame session, (bus.create frame session).1)]) := by
  cases reply : (bus.board.claim frame session .epoch).reply with
  | error error =>
      simp only [create, reply]
      exact (remembers.withBoard _).later rfl
  | ok claimed =>
      simp only [create, reply]
      cases claimed with
      | true =>
          exact remembers.enter rfl (exists_mem_of_isOpen isOpen) _
            fun connector => connector.enters_afterClaim session
      | false =>
          exact remembers.modify rfl sound _ fun connector _ => .refl connector

theorem remembers_join
    (remembers : bus.Remembers log) (sound : bus.Sound) {frame : FrameId}
    (isOpen : bus.isOpen frame = true) (session : SessionId) (displayName : String) :
    (bus.join frame session displayName).2.Remembers
      (log ++ [(.join frame session displayName, (bus.join frame session displayName).1)]) := by
  cases joined : (bus.board.join frame session displayName .epoch).reply with
  | true =>
      simp only [join, joined]
      exact remembers.enter rfl (exists_mem_of_isOpen isOpen) _
        fun connector => connector.enters_afterJoin session
  | false =>
      simp only [join, joined]
      exact remembers.modify rfl sound _ fun connector _ => .refl connector

/-- The connector of a frame may be replaced by one that it has become. -/
theorem Remembers.replace
    (remembers : bus.Remembers log) {entry : Action × Outcome SwitchboardError}
    (noEntry : Log.entered? entry = none) (sound : bus.Sound) {frame : FrameId}
    {connector changed : Connector} (found : bus.connector? frame = some connector)
    (stays : connector.Stays changed) :
    (bus.modify frame fun _ => changed).Remembers (log ++ [entry]) := by
  apply remembers.modify noEntry sound bus.board
  intro other same
  rw [found] at same
  cases same
  exact stays

theorem remembers_spread
    (remembers : bus.Remembers log) {entry : Action × Outcome SwitchboardError}
    (noEntry : Log.entered? entry = none) (packet : Packet) :
    (bus.spread packet).Remembers (log ++ [entry]) :=
  (remembers.remain bus.board
    (Connector.remain_map fun connector _ => connector.stays_dispatch packet)).later noEntry

/-- The connectors know what the log tells after every action. -/
theorem remembers_perform
    (remembers : bus.Remembers log) (sound : bus.Sound) (action : Action)
    (few : (bus.perform action).2.connectors.length < UInt64.size) :
    (bus.perform action).2.Remembers (log ++ [(action, (bus.perform action).1)]) := by
  have unchanged : ∀ outcome, Log.entered? (action, outcome) = none →
      bus.Remembers (log ++ [(action, outcome)]) :=
    fun outcome noEntry => remembers.later noEntry
  have guarded (frame : FrameId) (act : Outcome SwitchboardError × Bus)
      (after : bus.isOpen frame = true → act.2.Remembers (log ++ [(action, act.1)])) :
      (bus.ifOpen frame act).2.Remembers (log ++ [(action, (bus.ifOpen frame act).1)]) :=
    ifOpen_cases (motive := fun done => done.2.Remembers (log ++ [(action, done.1)])) after
      (unchanged .noConnector (by cases action <;> rfl))
  cases action with
  | connect displayName =>
      exact remembers_connect remembers sound displayName few
  | create frame session =>
      exact guarded frame _ fun isOpen => remembers_create remembers sound isOpen session
  | join frame session displayName =>
      exact guarded frame _ fun isOpen =>
        remembers_join remembers sound isOpen session displayName
  | describe frame session =>
      exact guarded frame _ fun _ => unchanged _ rfl
  | broadcast frame topic payload =>
      apply guarded
      intro isOpen
      split
      · unfold broadcast
        cases (bus.connector? frame).bind (·.broadcast? topic _) with
        | none =>
            exact unchanged _ rfl
        | some packet =>
            exact remembers_spread remembers rfl packet
      · exact unchanged _ rfl
  | unicast frame topic payload destination =>
      apply guarded
      intro isOpen
      split
      · exact remembers_spread remembers rfl _
      · exact unchanged _ rfl
  | receiver frame topic =>
      apply guarded
      intro isOpen
      rcases exists_of_isOpen isOpen with ⟨connector, found, _⟩
      simp only [receiver, found]
      exact remembers.replace rfl sound found (connector.stays_receiver topic)
  | receive frame ticket =>
      simp only [perform, receive]
      split
      · exact unchanged _ rfl
      · rename_i connector found
        exact remembers.replace rfl sound found (connector.stays_receive ticket)
  | drain frame ticket =>
      simp only [perform, drain]
      split
      · exact unchanged _ rfl
      · rename_i connector found
        exact remembers.replace rfl sound found (connector.stays_drain ticket)
  | dropReceiver frame ticket =>
      exact remembers.modify rfl sound bus.board fun connector _ => connector.stays_drop ticket
  | close frame =>
      exact guarded frame _ fun _ =>
        remembers.modify rfl sound _ fun connector _ => connector.stays_close

end Bus

end SessionBus
