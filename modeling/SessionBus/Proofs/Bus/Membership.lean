import SessionBus.Proofs.Bus.Station
import SessionBus.Proofs.Registry.Members

/-!
# Connectors and the registry agree on members

A session is kept in two places: the registry lists its members, and every connector keeps the
sessions that its frame has entered.  Both follow the log.  A frame enters a session when the
registry says yes to it, and no other way, so a connector knows of just those sessions whose record
lists its frame.

Nothing needs to be known of the transport but that it is honest: requests may be refused or lost,
connectors may close, and frames may work in memory, behind sockets, or both at one station.
-/

namespace SessionBus

/-! ## The log -/

namespace Log

variable {ε : Type}

/-- A frame works in a session that it has entered. -/
theorem hasEntered_of_current?
    {log : Log ε} {frame : FrameId} {session : SessionId}
    (current : log.current? frame = some session) : log.hasEntered frame session = true := by
  rcases List.lookup_eq_some_iff.mp current with ⟨before, behind, split, _⟩
  rw [hasEntered, List.contains_eq_mem, decide_eq_true_iff, ← List.mem_reverse, split]
  exact List.mem_append_right _ List.mem_cons_self

/-- Who works in no session has entered none. -/
theorem current?_eq_none_iff {log : Log ε} {frame : FrameId} :
    log.current? frame = none ↔ ∀ session, log.hasEntered frame session = false := by
  constructor
  · intro idle session
    rw [hasEntered, List.contains_eq_mem, decide_eq_false_iff_not]
    intro inside
    have other := List.lookup_eq_none_iff.mp idle _ (List.mem_reverse.mpr inside)
    simp at other
  · intro outside
    cases current : log.current? frame with
    | none =>
        rfl
    | some session =>
        have entered := hasEntered_of_current? current
        rw [outside session] at entered
        cases entered

end Log

theorem Binding.eq_unbound_iff {binding : Binding} :
    binding = .unbound ↔ binding.session? = none := by
  cases binding <;> simp [session?]

/-! ## What every passage keeps -/

namespace Bus

/-- The connectors know what the log tells of their frames, and the registry lists whom the log
tells to have entered a session. -/
structure Enrolls (maxSessions : Nat) (log : Log TransportError) (bus : Bus) : Prop where
  remembers : bus.Remembers log
  formed : bus.board.table.Formed maxSessions
  listed :
    ∀ session frame, bus.board.table.Lists session frame ↔ log.hasEntered frame session = true

variable {maxSessions : Nat} {log : Log TransportError} {bus : Bus}

theorem enrolls_start (limits : Limits) :
    Enrolls limits.maxSessions [] ⟨.empty limits, []⟩ where
  remembers := remembers_start limits
  formed := SessionTable.formed_empty limits.maxSessions
  listed := by
    intro session frame
    simp [Switchboard.empty, SessionTable.not_lists_empty, Log.hasEntered]

theorem Enrolls.perm
    {board : Switchboard} {connectors others : List Connector}
    (enrolls : Enrolls maxSessions log ⟨board, connectors⟩) (same : others.Perm connectors) :
    Enrolls maxSessions log ⟨board, others⟩ where
  remembers :=
    { working := fun connector inside =>
        enrolls.remembers.working connector (same.mem_iff.mp inside)
      memberships := fun connector inside =>
        enrolls.remembers.memberships connector (same.mem_iff.mp inside)
      known := by
        intro entry inside
        rcases enrolls.remembers.known entry inside with ⟨connector, present, own⟩
        exact ⟨connector, same.mem_iff.mpr present, own⟩
      routers := fun connector inside =>
        enrolls.remembers.routers connector (same.mem_iff.mp inside) }
  formed := enrolls.formed
  listed := enrolls.listed

/-- An action by which no frame enters a session leaves the members alone. -/
theorem Enrolls.quiet
    (enrolls : bus.Enrolls maxSessions log) {entry : Action × Outcome TransportError}
    (noEntry : Log.entered? entry = none) {after : Bus}
    (remembers : after.Remembers log) (table : after.board.table = bus.board.table) :
    after.Enrolls maxSessions (log ++ [entry]) where
  remembers := remembers.later noEntry
  formed := table ▸ enrolls.formed
  listed := by
    intro session frame
    rw [Log.hasEntered_append_of_none log noEntry, table]
    exact enrolls.listed session frame

/-- Where the registry says yes a frame enters a session, and where it says no nothing changes. -/
theorem Enrolls.decided
    (enrolls : bus.Enrolls maxSessions log) {board : Switchboard} {frame : FrameId}
    {session : SessionId} {granted : Bool} {entry : Action × Outcome TransportError}
    (entered : Log.entered? entry = if granted then some (frame, session) else none)
    (has : ∃ connector ∈ bus.connectors, connector.frame = frame)
    {change : Connector → Connector}
    (enters : granted = true → ∀ connector, Connector.Enters session connector (change connector))
    (stays : granted = false → ∀ connector, Connector.Stays connector (change connector))
    (formed : board.table.Formed maxSessions)
    (lists : ∀ id other, board.table.Lists id other ↔
      bus.board.table.Lists id other ∨ granted = true ∧ id = session ∧ other = frame)
    {connectors : List Connector}
    (remain : Connector.Remain (bus.modify frame change).connectors connectors) :
    Enrolls maxSessions (log ++ [entry]) ⟨board, connectors⟩ where
  remembers := by
    cases granted with
    | false =>
        have same : Connector.Remain bus.connectors (bus.modify frame change).connectors :=
          Bus.remain_modify frame (stays rfl)
        exact (enrolls.remembers.remain board (same.trans remain)).later entered
    | true =>
        exact (enrolls.remembers.enter entered has board (enters rfl)).remain board remain
  formed := formed
  listed := by
    intro id other
    rw [lists, enrolls.listed]
    cases granted with
    | false =>
        rw [Log.hasEntered_append_of_none log entered]
        simp
    | true =>
        rw [Log.hasEntered_append_of_some log entered]
        simp [and_comm]

/-- Whatever is done on a bus, the registry and the connectors follow the log. -/
theorem Enrolls.passage
    {after : Bus} {now : Instant} {entry : Action × Outcome TransportError}
    (counted : bus.Counted) (few : after.connectors.length < UInt64.size)
    (enrolls : bus.Enrolls maxSessions log) (passage : bus.Passage now entry after) :
    after.Enrolls maxSessions (log ++ [entry]) := by
  cases passage with
  | quiet noEntry table next remain =>
      exact enrolls.quiet noEntry (enrolls.remembers.remain after.board remain) table
  | attached displayName admitted remain =>
      rcases bus.board.register_of_ok admitted with ⟨_, table, _⟩
      rw [remain.length, List.length_append, List.length_singleton] at few
      have taken := enrolls.remembers.attach bus.board.register.board
        (counted.newcomer few admitted)
      exact enrolls.quiet rfl (taken.remain _ remain) table
  | @claimed frame session claimed connectors has said remain =>
      have formed := Switchboard.formed_handle enrolls.formed now (.claim frame session)
      refine enrolls.decided ?_ has ?_ ?_ formed (Switchboard.lists_claim enrolls.formed said)
        remain
      · cases claimed <;> rfl
      · rintro rfl connector
        exact connector.enters_afterClaim session
      · rintro rfl connector
        exact .refl connector
  | @joined frame session displayName joined connectors has said remain =>
      have formed :=
        Switchboard.formed_handle enrolls.formed now (.join frame session displayName)
      have lists := bus.board.lists_join frame session displayName now
      rw [said] at lists
      refine enrolls.decided ?_ has ?_ ?_ formed lists remain
      · cases joined <;> rfl
      · rintro rfl connector
        exact connector.enters_afterJoin session
      · rintro rfl connector
        exact .refl connector

end Bus

/-! ## Agreement -/

/-- What connectors say of their sessions is what the registry says, and the session that a frame
works in is the last one that it has entered. -/
structure Agreement
    (log : Log TransportError) (exchange : Exchange) (connectors : List Connector) : Prop where
  apart : (connectors.map (·.frame)).Nodup
  memberships :
    ∀ connector ∈ connectors, ∀ session,
      connector.isMember session = true ↔
        ∃ record, exchange.describe session = some record ∧
          connector.frame ∈ record.members.map (·.frame)
  unbound :
    ∀ connector ∈ connectors,
      connector.binding = .unbound ↔ ∀ session, connector.isMember session = false
  current :
    ∀ connector ∈ connectors, connector.binding.session? = log.current? connector.frame
  belongs :
    ∀ connector ∈ connectors, ∀ session,
      connector.binding.session? = some session → connector.isMember session = true

theorem Bus.Enrolls.agreement
    {maxSessions : Nat} {log : Log TransportError} {bus : Bus} {exchange : Exchange}
    (enrolls : bus.Enrolls maxSessions log) (counted : bus.Counted)
    (runs : exchange.board = some bus.board) : Agreement log exchange bus.connectors where
  apart := counted.apart
  memberships := by
    intro connector inside session
    rw [enrolls.remembers.memberships connector inside, ← enrolls.listed, Exchange.describe, runs]
    exact Iff.rfl
  unbound := by
    intro connector inside
    rw [Binding.eq_unbound_iff, enrolls.remembers.working connector inside,
      Log.current?_eq_none_iff]
    apply forall_congr'
    intro session
    rw [← Bool.not_eq_true, ← Bool.not_eq_true, enrolls.remembers.memberships connector inside]
  current := enrolls.remembers.working
  belongs := by
    intro connector inside session works
    rw [enrolls.remembers.working connector inside] at works
    rw [enrolls.remembers.memberships connector inside]
    exact Log.hasEntered_of_current? works

/--
After every run of the actions of connectors, whatever their outcomes, a connector is a member of
just those sessions that the registry has with its frame among the members.  It is unbound exactly
if there is none; else it works in the last session that it has created or joined, which is one of
them.  So it is for connectors in memory, behind sockets, whatever the sizes of lines, and for those
of both kinds at one station.

Identities have 64 bits, so there is no telling the frames of more connectors apart.
-/
theorem memberships_agree (limits : Limits) :
    (∀ script : List (Instant × Action),
      let network := (Network.inMemory limits).afterActions script
      network.connectors.length < UInt64.size →
        Agreement ((Network.inMemory limits).log script) network.transport.exchange
          network.connectors) ∧
    (∀ (maxMessageSize : Nat) (path : String) (displayName : Option String)
      (script : List (Instant × Action)),
      let start := Network.onHub limits maxMessageSize path displayName
      let network := start.afterActions script
      network.connectors.length < UInt64.size →
        Agreement (start.log script) network.transport.exchange network.connectors) ∧
    ∀ (number : Nat) (settings : Settings) (displayName : String)
      (script : List (Instant × Command.Side × Action)),
      let start := Command.Station.start number settings displayName
      let station := start.afterActions script
      station.connectors.length < UInt64.size →
        Agreement (start.log script) station.exchange station.connectors := by
  exact Bus.told_by_runs (fun limits => Bus.Enrolls limits.maxSessions) Bus.enrolls_start
    Bus.Enrolls.passage Bus.Enrolls.agreement Bus.Enrolls.perm limits

/-- Two frames of any kind that create and join sessions, one of them in vain. -/
theorem guests_are_members :
    let script : List Action :=
      [.connect none, .connect none, .create ⟨1⟩ ⟨"a"⟩, .join ⟨2⟩ ⟨"a"⟩ "guest",
        .create ⟨2⟩ ⟨"a"⟩, .close ⟨1⟩]
    let timed := script.map fun action => (Instant.epoch, action)
    let memory := Network.inMemory ⟨4, 4⟩
    let hub := Network.onHub ⟨4, 4⟩ Line.maxSize "hub.sock" none
    let station := Command.Station.start 1 .default "guest"
    let mixed := [(Instant.epoch, Command.Side.linked, Action.connect none),
        (.epoch, .inside, .connect none), (.epoch, .inside, .create ⟨2⟩ ⟨"a"⟩),
        (.epoch, .linked, .join ⟨1⟩ ⟨"a"⟩ "guest")]
    (memory.afterActions timed).connectors.map (·.memberships) = [[⟨"a"⟩], [⟨"a"⟩]] ∧
      Agreement (memory.log timed) (memory.afterActions timed).transport.exchange
        (memory.afterActions timed).connectors ∧
      Agreement (hub.log timed) (hub.afterActions timed).transport.exchange
        (hub.afterActions timed).connectors ∧
      Agreement (station.log mixed) (station.afterActions mixed).exchange
        (station.afterActions mixed).connectors := by
  intro script timed memory hub station mixed
  obtain ⟨direct, linked, both⟩ := memberships_agree ⟨4, 4⟩
  have short : 6 < UInt64.size := by decide
  refine ⟨by decide, direct timed ?_, linked Line.maxSize "hub.sock" none timed ?_,
    both 1 .default "guest" mixed ?_⟩
  · exact Nat.lt_of_le_of_lt (memory.length_connectors_afterActions_le timed) short
  · exact Nat.lt_of_le_of_lt (hub.length_connectors_afterActions_le timed) short
  · exact Nat.lt_of_le_of_lt (station.length_connectors_afterActions_le mixed) (by decide)

end SessionBus
