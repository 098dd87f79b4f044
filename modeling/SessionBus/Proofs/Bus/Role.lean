import SessionBus.Proofs.Bus.Membership
import SessionBus.Proofs.Registry.Entries

/-!
# Who works in a session as its owner

The registry never takes a session from its owner.  A connector remembers that it is the owner only
as long as it works in that session: once it has entered another one and then joins its own again, it
takes itself for a mere member.  It is the owner again after one more claim.

So the role that a connector reports is the one in the registry if it says that it is the owner, but
not always if it says that it is a member.  The log tells which of the two it says.
-/

namespace SessionBus

/-! ## The log -/

namespace Log

variable {ε : Type}

/-- A frame owns a session from its first claim that succeeds. -/
def Claimed (log : Log ε) (frame : FrameId) (session : SessionId) : Prop :=
  (Action.create frame session, Outcome.decided (.ok true)) ∈ log

/-- A frame has claimed a session with success, and it has entered no other since. -/
def WorksAsOwner (log : Log ε) (frame : FrameId) (session : SessionId) : Prop :=
  ∃ before after, log = before ++ (.create frame session, .decided (.ok true)) :: after ∧
    ∀ entry ∈ after, ∀ other, entered? entry = some (frame, other) → other = session

variable {log : Log ε} {frame : FrameId} {session : SessionId}

theorem claimed_append (entry : Action × Outcome ε) :
    (log ++ [entry]).Claimed frame session ↔
      log.Claimed frame session ∨ entry = (.create frame session, .decided (.ok true)) := by
  simp [Claimed, eq_comm]

theorem WorksAsOwner.claimed (works : log.WorksAsOwner frame session) :
    log.Claimed frame session := by
  rcases works with ⟨before, after, rfl, _⟩
  exact List.mem_append_right _ List.mem_cons_self

theorem hasEntered_of_claimed (claimed : log.Claimed frame session) :
    log.hasEntered frame session = true := by
  rw [hasEntered, List.contains_eq_mem, decide_eq_true_iff]
  exact List.mem_filterMap.mpr ⟨_, claimed, rfl⟩

/-- One more entry makes a frame the owner at work, or leaves it so. -/
theorem worksAsOwner_append (entry : Action × Outcome ε) :
    (log ++ [entry]).WorksAsOwner frame session ↔
      entry = (.create frame session, .decided (.ok true)) ∨
        log.WorksAsOwner frame session ∧
          ∀ other, entered? entry = some (frame, other) → other = session := by
  constructor
  · rintro ⟨before, after, split, stays⟩
    rcases List.eq_nil_or_concat after with rfl | ⟨earlier, last, rfl⟩
    · exact .inl (List.singleton_inj.mp (List.append_inj' split rfl).2)
    · rw [List.concat_eq_append, ← List.cons_append, ← List.append_assoc] at split
      rw [List.concat_eq_append] at stays
      rcases List.append_inj' split rfl with ⟨rfl, same⟩
      rcases List.singleton_inj.mp same with rfl
      exact .inr ⟨⟨before, earlier, rfl, fun other inside =>
          stays other (List.mem_append_left _ inside)⟩,
        stays entry (List.mem_append_right _ List.mem_cons_self)⟩
  · rintro (rfl | ⟨⟨before, after, rfl, stays⟩, here⟩)
    · exact ⟨log, [], rfl, by simp⟩
    · refine ⟨before, after ++ [entry], by simp, ?_⟩
      intro other inside
      rcases List.mem_append.mp inside with old | new
      · exact stays other old
      · rcases List.mem_singleton.mp new with rfl
        exact here

end Log

/-! ## One connector -/

namespace Connector

variable {ε : Type} {entry : Action × Outcome ε} {connector changed : Connector}

/-- A connector that has changed as an entry of the log tells of its frame: by a claim that succeeds
it becomes the owner of the session, and it is no owner any more once it enters another one. -/
structure Follows (entry : Action × Outcome ε) (connector changed : Connector) : Prop where
  frame : changed.frame = connector.frame
  owner :
    ∀ session, changed.binding = .owner session ↔
      entry = (.create connector.frame session, .decided (.ok true)) ∨
        connector.binding = .owner session ∧
          ∀ other, Log.entered? entry = some (connector.frame, other) → other = session

theorem Follows.of_stays
    (elsewhere : ∀ session, Log.entered? entry ≠ some (connector.frame, session))
    (stays : connector.Stays changed) : Follows entry connector changed where
  frame := stays.frame
  owner := by
    intro session
    rw [stays.binding]
    constructor
    · exact fun owner => .inr ⟨owner, fun other entered => absurd entered (elsewhere other)⟩
    · rintro (rfl | ⟨owner, _⟩)
      · exact absurd rfl (elsewhere session)
      · exact owner

theorem Follows.stays
    {last : Connector} (follows : Follows entry connector changed) (stays : changed.Stays last) :
    Follows entry connector last where
  frame := stays.frame.trans follows.frame
  owner := by
    rw [stays.binding]
    exact follows.owner

theorem follows_afterClaim (connector : Connector) (session : SessionId) (claimed : Bool) :
    Follows (ε := ε) (.create connector.frame session, .decided (.ok claimed)) connector
      (connector.afterClaim session claimed) := by
  cases claimed with
  | false =>
      exact .of_stays (fun _ entered => by cases entered) (.refl connector)
  | true =>
      refine ⟨rfl, fun other => ?_⟩
      simp only [afterClaim, if_true, Binding.owner.injEq, Log.entered?, Option.some.injEq,
        Prod.mk.injEq, true_and, and_true, Action.create.injEq]
      constructor
      · exact .inl
      · rintro (same | ⟨_, same⟩)
        · exact same
        · exact same session rfl

theorem follows_afterJoin
    (connector : Connector) (session : SessionId) (displayName : String) (joined : Bool) :
    Follows (ε := ε) (.join connector.frame session displayName, .decided (.ok joined)) connector
      (connector.afterJoin session joined) := by
  cases joined with
  | false =>
      exact .of_stays (fun _ entered => by cases entered) (.refl connector)
  | true =>
      refine ⟨rfl, fun other => ?_⟩
      by_cases owner : connector.binding = .owner session
      · simp [afterJoin, owner, Log.entered?]
      · constructor
        · intro now
          simp [afterJoin, owner] at now
        · rintro (made | ⟨before, same⟩)
          · cases made
          · rw [same session rfl] at owner
            exact absurd before owner

end Connector

/-! ## Claims -/

namespace Switchboard

/-- A claim that succeeds makes the claimant the owner, and one that does not makes nobody one. -/
theorem owner?_claim
    {board : Switchboard} {frame : FrameId} {session : SessionId} {now : Instant} {claimed : Bool}
    (said : (board.claim frame session now).reply = .ok claimed) (id : SessionId)
    (other : FrameId) :
    (board.claim frame session now).board.table.owner? id = some other ↔
      board.table.owner? id = some other ∨ claimed = true ∧ id = session ∧ other = frame := by
  rcases board.claim_cases frame session now with
    ⟨owner, owned, answer⟩ | ⟨unowned, refused | founded⟩
  · rw [answer] at said ⊢
    cases said
    constructor
    · exact .inl
    · rintro (known | ⟨own, rfl, rfl⟩)
      · exact known
      · rw [← of_decide_eq_true own]
        exact owned
  · rw [refused] at said
    cases said
  · rw [founded] at said ⊢
    cases said
    rw [SessionTable.owner?_founded unowned]
    by_cases here : id = session
    · subst here
      simp [unowned, eq_comm]
    · simp [here]

end Switchboard

/-! ## What every passage keeps -/

namespace Bus

variable {maxSessions : Nat} {log : Log TransportError} {bus after : Bus} {now : Instant}
  {entry : Action × Outcome TransportError}

/-- If just the connector of one frame changes, and the entry is that frame's own, all follow it. -/
theorem follows_of_modify
    {frame : FrameId} {change : Connector → Connector} {connectors : List Connector}
    (remain : Connector.Remain (bus.modify frame change).connectors connectors)
    (own : ∀ connector : Connector, connector.frame = frame →
      connector.Follows entry (change connector))
    (alone : ∀ other session, Log.entered? entry = some (other, session) → other = frame) :
    ∀ changed ∈ connectors, ∃ connector ∈ bus.connectors, connector.Follows entry changed := by
  intro changed inside
  rcases remain.each changed inside with ⟨_, present, stays⟩
  rcases List.mem_map.mp present with ⟨connector, known, rfl⟩
  refine ⟨connector, known, ?_⟩
  split at stays
  · rename_i same
    exact (own connector same).stays stays
  · rename_i other
    exact .of_stays (fun session entered => other (alone _ session entered)) stays

/-- Every connector follows the entry, and a new one works nowhere. -/
theorem Passage.follows
    (passage : bus.Passage now entry after) (counted : bus.Counted)
    (few : after.connectors.length < UInt64.size) :
    ∀ changed ∈ after.connectors,
      (∃ connector ∈ bus.connectors, connector.Follows entry changed) ∨
        Log.entered? entry = none ∧ changed.binding = .unbound ∧
          ∀ connector ∈ bus.connectors, connector.frame ≠ changed.frame := by
  intro changed inside
  cases passage with
  | quiet noEntry table next remain =>
      rcases remain.each changed inside with ⟨connector, present, stays⟩
      exact .inl ⟨connector, present, .of_stays (by simp [noEntry]) stays⟩
  | attached displayName admitted remain =>
      rcases remain.each changed inside with ⟨connector, present, stays⟩
      rcases List.mem_append.mp present with old | new
      · exact .inl ⟨connector, old, .of_stays (by simp [Log.entered?]) stays⟩
      · rcases List.mem_singleton.mp new with rfl
        rw [remain.length, List.length_append, List.length_singleton] at few
        exact .inr ⟨rfl, stays.binding, stays.frame ▸ counted.newcomer few admitted⟩
  | @claimed frame session claimed _ has said remain =>
      refine .inl (follows_of_modify remain ?_ ?_ changed inside)
      · rintro connector rfl
        exact connector.follows_afterClaim session claimed
      · intro other id entered
        cases claimed <;> cases entered
        rfl
  | @joined frame session displayName joined _ has said remain =>
      refine .inl (follows_of_modify remain ?_ ?_ changed inside)
      · rintro connector rfl
        exact connector.follows_afterJoin session displayName joined
      · intro other id entered
        cases joined <;> cases entered
        rfl

/-- A session has the owner that it had, or the frame whose claim succeeds. -/
theorem Passage.owner?_eq_some
    (passage : bus.Passage now entry after) (session : SessionId) (frame : FrameId) :
    after.board.table.owner? session = some frame ↔
      bus.board.table.owner? session = some frame ∨
        entry = (.create frame session, .decided (.ok true)) := by
  cases passage with
  | quiet noEntry table next remain =>
      rw [table]
      constructor
      · exact .inl
      · rintro (owned | rfl)
        · exact owned
        · cases noEntry
  | attached displayName admitted remain =>
      rcases bus.board.register_of_ok admitted with ⟨_, table, _⟩
      simp [table]
  | claimed has said remain =>
      rw [Switchboard.owner?_claim said]
      simp [and_comm, eq_comm]
  | @joined joiner id displayName _ _ has said remain =>
      have kept := SessionTable.owner?_join bus.board.table joiner id displayName now session
      simp [← kept, Switchboard.join]

/-- The registry has the owners that the log tells of, and a connector takes itself for the owner
just as long as the log says so. -/
structure Ranks (maxSessions : Nat) (log : Log TransportError) (bus : Bus) : Prop where
  enrolls : bus.Enrolls maxSessions log
  owned :
    ∀ session frame, bus.board.table.owner? session = some frame ↔ log.Claimed frame session
  owning :
    ∀ connector ∈ bus.connectors, ∀ session,
      connector.binding = .owner session ↔ log.WorksAsOwner connector.frame session

theorem ranks_start (limits : Limits) :
    Ranks limits.maxSessions [] ⟨.empty limits, []⟩ where
  enrolls := enrolls_start limits
  owned := by simp [Switchboard.empty, SessionTable.owner?, SessionTable.describe,
    SessionTable.empty, Log.Claimed]
  owning := by simp

theorem Ranks.perm
    {board : Switchboard} {connectors others : List Connector}
    (ranks : Ranks maxSessions log ⟨board, connectors⟩) (same : others.Perm connectors) :
    Ranks maxSessions log ⟨board, others⟩ where
  enrolls := ranks.enrolls.perm same
  owned := ranks.owned
  owning := fun connector inside => ranks.owning connector (same.mem_iff.mp inside)

theorem Ranks.passage
    (counted : bus.Counted) (few : after.connectors.length < UInt64.size)
    (ranks : bus.Ranks maxSessions log) (passage : bus.Passage now entry after) :
    after.Ranks maxSessions (log ++ [entry]) where
  enrolls := ranks.enrolls.passage counted few passage
  owned := by
    intro session frame
    rw [passage.owner?_eq_some, ranks.owned, Log.claimed_append]
  owning := by
    intro changed inside session
    rw [Log.worksAsOwner_append]
    rcases passage.follows counted few changed inside with
      ⟨connector, present, follows⟩ | ⟨noEntry, idle, unknown⟩
    · rw [follows.owner, follows.frame, ranks.owning connector present]
    · have outside := (ranks.enrolls.remembers.not_entered unknown).2 session
      constructor
      · intro owner
        rw [idle] at owner
        cases owner
      · rintro (rfl | ⟨works, _⟩)
        · cases noEntry
        · have entered := Log.hasEntered_of_claimed works.claimed
          rw [outside] at entered
          cases entered

end Bus

/-! ## Roles -/

/-- The owners in the registry are those who have claimed their sessions with success.  A connector
says that it is the owner of its session if that is so and it has worked there ever since; else it
says that it is a member. -/
structure Ranking
    (log : Log TransportError) (exchange : Exchange) (connectors : List Connector) : Prop where
  owned :
    ∀ session frame, exchange.owner? session = some frame ↔ log.Claimed frame session
  owner :
    ∀ connector ∈ connectors, ∀ session,
      connector.binding = .owner session ↔
        exchange.owner? session = some connector.frame ∧
          log.WorksAsOwner connector.frame session
  member :
    ∀ connector ∈ connectors, ∀ session,
      connector.binding = .member session ↔
        log.current? connector.frame = some session ∧
          ¬ log.WorksAsOwner connector.frame session

theorem Bus.Ranks.ranking
    {maxSessions : Nat} {log : Log TransportError} {bus : Bus} {exchange : Exchange}
    (ranks : bus.Ranks maxSessions log)
    (runs : exchange.board = some bus.board) : Ranking log exchange bus.connectors := by
  have owned : ∀ session frame,
      exchange.owner? session = some frame ↔ log.Claimed frame session := by
    intro session frame
    rw [← ranks.owned, Exchange.owner?, Exchange.describe, runs]
    exact Iff.rfl
  refine ⟨owned, ?_, ?_⟩
  · intro connector inside session
    rw [ranks.owning connector inside, owned]
    constructor
    · exact fun works => ⟨works.claimed, works⟩
    · exact And.right
  · intro connector inside session
    rw [← ranks.enrolls.remembers.working connector inside, ← ranks.owning connector inside]
    cases connector.binding <;> simp [Binding.session?]

/--
After every run of the actions of connectors, whatever their outcomes, a connector says that it is
the owner of the session that it works in just if the registry has its frame as the owner and the
frame has entered no other session since it last claimed this one with success.  Else it says that
it is a member, so that an owner who comes back by joining is one.

This holds in memory, behind sockets and at a station, as long as identities do not run out.
-/
theorem owners_known_while_current (limits : Limits) :
    (∀ script : List (Instant × Action),
      let network := (Network.inMemory limits).afterActions script
      network.connectors.length < UInt64.size →
        Ranking ((Network.inMemory limits).log script) network.transport.exchange
          network.connectors) ∧
    (∀ (maxMessageSize : Nat) (path : String) (displayName : Option String)
      (script : List (Instant × Action)),
      let start := Network.onHub limits maxMessageSize path displayName
      let network := start.afterActions script
      network.connectors.length < UInt64.size →
        Ranking (start.log script) network.transport.exchange network.connectors) ∧
    ∀ (number : Nat) (settings : Settings) (displayName : String)
      (script : List (Instant × Command.Side × Action)),
      let start := Command.Station.start number settings displayName
      let station := start.afterActions script
      station.connectors.length < UInt64.size →
        Ranking (start.log script) station.exchange station.connectors := by
  exact Bus.told_by_runs (fun limits => Bus.Ranks limits.maxSessions) Bus.ranks_start
    Bus.Ranks.passage (fun ranks _ => ranks.ranking) Bus.Ranks.perm limits

/-- An owner that stays, and one that goes to another session and comes back. -/
theorem staying_owner_known :
    let script : List Action :=
      [.connect none, .connect none, .create ⟨1⟩ ⟨"a"⟩, .join ⟨1⟩ ⟨"a"⟩ "first",
        .create ⟨2⟩ ⟨"b"⟩, .join ⟨2⟩ ⟨"a"⟩ "second", .join ⟨2⟩ ⟨"b"⟩ "second"]
    let timed := script.map fun action => (Instant.epoch, action)
    let memory := Network.inMemory ⟨4, 4⟩
    let hub := Network.onHub ⟨4, 4⟩ Line.maxSize "hub.sock" none
    let station := Command.Station.start 1 .default "guest"
    let mixed := [(Instant.epoch, Command.Side.linked, Action.connect none),
        (.epoch, .inside, .connect none), (.epoch, .inside, .create ⟨2⟩ ⟨"a"⟩),
        (.epoch, .linked, .join ⟨1⟩ ⟨"a"⟩ "guest")]
    (memory.afterActions timed).connectors.map (·.binding) = [.owner ⟨"a"⟩, .member ⟨"b"⟩] ∧
      Ranking (memory.log timed) (memory.afterActions timed).transport.exchange
        (memory.afterActions timed).connectors ∧
      Ranking (hub.log timed) (hub.afterActions timed).transport.exchange
        (hub.afterActions timed).connectors ∧
      Ranking (station.log mixed) (station.afterActions mixed).exchange
        (station.afterActions mixed).connectors := by
  intro script timed memory hub station mixed
  obtain ⟨direct, linked, both⟩ := owners_known_while_current ⟨4, 4⟩
  have short : 7 < UInt64.size := by decide
  refine ⟨by decide, direct timed ?_, linked Line.maxSize "hub.sock" none timed ?_,
    both 1 .default "guest" mixed ?_⟩
  · exact Nat.lt_of_le_of_lt (memory.length_connectors_afterActions_le timed) short
  · exact Nat.lt_of_le_of_lt (hub.length_connectors_afterActions_le timed) short
  · exact Nat.lt_of_le_of_lt (station.length_connectors_afterActions_le mixed) (by decide)

/-- Not every connector whose frame owns the session that it works in says so. -/
theorem returning_owner_takes_itself_for_member :
    let script : List Action :=
      [.connect none, .create ⟨1⟩ ⟨"a"⟩, .create ⟨1⟩ ⟨"b"⟩, .join ⟨1⟩ ⟨"a"⟩ "back"]
    let network := (Network.inMemory ⟨4, 4⟩).afterActions
      (script.map fun action => (Instant.epoch, action))
    ¬ ∀ connector ∈ network.connectors, connector.isClosed = false → ∀ session,
      connector.binding.session? = some session →
        network.transport.exchange.owner? session = some connector.frame →
          connector.binding = .owner session := by
  intro script network always
  have returned : ∃ connector ∈ network.connectors, connector.isClosed = false ∧
      connector.binding = .member ⟨"a"⟩ ∧
        network.transport.exchange.owner? ⟨"a"⟩ = some connector.frame := by
    decide
  rcases returned with ⟨connector, inside, isOpen, back, owns⟩
  have owner := always connector inside isOpen ⟨"a"⟩ (by rw [back]; rfl) owns
  rw [back] at owner
  cases owner

end SessionBus
