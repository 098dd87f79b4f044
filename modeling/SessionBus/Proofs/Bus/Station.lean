import SessionBus.Command.Station
import SessionBus.Proofs.Bus.Equivalence
import SessionBus.Proofs.Transport.Honest

/-!
# Frames of both kinds on one bus

At a station frames of the hub's own process use the exchange in memory, and frames of other
processes reach it through sockets.  An action of either kind of frame is a passage of the bus with
all their connectors, so that whatever every passage keeps holds after every run of a station too.
-/

namespace SessionBus

/-! ## Two networks with one exchange -/

namespace Network

variable {rel relOther : Transport → Switchboard → List FrameId → Prop} {network other : Network}
  {board : Switchboard}

theorem length_resume (network : Network) (exchange : Exchange) :
    (network.resume exchange).connectors.length = network.connectors.length :=
  length_settle _

/-- A frame acts on one of two networks, the other takes notice, and then so does the first. -/
theorem passage_shared
    (honest : Transport.Honest rel) (honestOther : Transport.Honest relOther)
    (views : Views rel network ⟨board, network.connectors⟩)
    (viewsOther : Views relOther other ⟨board, other.connectors⟩)
    (counted : Bus.Counted ⟨board, other.connectors ++ network.connectors⟩) (now : Instant)
    (action : Action) :
    let acted := network.perform now action
    let told := other.resume acted.2.transport.exchange
    let back := acted.2.resume told.transport.exchange
    told.connectors.length + back.connectors.length < UInt64.size → ∃ after,
      Bus.Passage ⟨board, other.connectors ++ network.connectors⟩ now (action, acted.1)
          ⟨after, told.connectors ++ back.connectors⟩ ∧
        Views rel back ⟨after, back.connectors⟩ ∧
          Views relOther told ⟨after, told.connectors⟩ := by
  intro acted told back few
  have sizes : told.connectors.length = other.connectors.length ∧
      back.connectors.length = acted.2.connectors.length :=
    ⟨length_resume _ _, length_resume _ _⟩
  have fresh : network.connectors.length < acted.2.connectors.length →
      ∀ frame, board.register.reply = .ok frame → frame ∉ network.connectors.map (·.frame) := by
    intro grows frame admitted inside
    have room : (other.connectors ++ network.connectors).length + 1 < UInt64.size := by
      rw [List.length_append]
      omega
    rcases List.mem_map.mp inside with ⟨connector, present, same⟩
    exact counted.newcomer room admitted connector (List.mem_append_right _ present) same
  obtain ⟨after, passage, viewsActed⟩ := passage_perform honest views now action fresh
  obtain ⟨toldConnectors, remainOther, viewsTold⟩ :=
    views_resume honestOther viewsOther (honest.runs viewsActed.transport)
  obtain ⟨backConnectors, remainBack, viewsBack⟩ :=
    views_resume honest viewsActed (honestOther.runs viewsTold.transport)
  obtain rfl : toldConnectors = told.connectors := viewsTold.connectors.symm
  obtain rfl : backConnectors = back.connectors := viewsBack.connectors.symm
  exact ⟨after.board, (passage.settled remainBack).beside counted.apart remainOther, viewsBack,
    viewsTold⟩

theorem views_inMemory (limits : Limits) :
    Views Memory.Runs (inMemory limits) (Bus.start limits) :=
  ⟨rfl, Memory.runs_start limits⟩

theorem views_onHub
    (limits : Limits) (maxMessageSize : Nat) (path : String) (displayName : Option String) :
    Views Sockets.Obeys (onHub limits maxMessageSize path displayName) (Bus.start limits) :=
  ⟨rfl, Sockets.obeys_start limits maxMessageSize path displayName⟩

end Network

namespace Command

/-- The frames of other processes are linked to a station, and those of its own are inside. -/
inductive Side where
  | linked
  | inside
deriving DecidableEq

namespace Station

/-- An action of a frame of one kind. -/
def perform (station : Station) (now : Instant) (action : Action) :
    Side → SessionBus.Outcome TransportError × Station
  | .linked => station.onLinked (·.perform now action)
  | .inside => station.onInside (·.perform now action)

/-- The connectors of all frames. -/
def connectors (station : Station) : List Connector :=
  station.inside.connectors ++ station.linked.connectors

/-- The actions of a run with their outcomes. -/
def log (station : Station) :
    List (Instant × Side × Action) → Log TransportError
  | [] => []
  | (now, side, action) :: rest =>
      (action, (station.perform now action side).1) ::
        (station.perform now action side).2.log rest

/-- The station after a run. -/
def afterActions (station : Station) : List (Instant × Side × Action) → Station
  | [] => station
  | (now, side, action) :: rest => (station.perform now action side).2.afterActions rest

/-- Both networks of a station use the same switchboard. -/
structure Shares (station : Station) (board : Switchboard) : Prop where
  linked : Network.Views Sockets.Obeys station.linked ⟨board, station.linked.connectors⟩
  inside : Network.Views Memory.Runs station.inside ⟨board, station.inside.connectors⟩

theorem shares_start (number : Nat) (settings : Settings) (displayName : String) :
    (start number settings displayName).Shares (.empty settings.limits) where
  linked := ⟨rfl, Sockets.obeys_start _ _ _ _⟩
  inside := ⟨rfl, rfl⟩

theorem length_connectors_le_perform
    (station : Station) (now : Instant) (action : Action) (side : Side) :
    station.connectors.length ≤ (station.perform now action side).2.connectors.length := by
  have linked := station.linked.length_connectors_le_perform now action
  have inside := station.inside.length_connectors_le_perform now action
  cases side with
  | linked | inside =>
      simp only [connectors, perform, onLinked, onInside, List.length_append,
        Network.length_resume]
      omega

theorem length_connectors_le_afterActions
    (station : Station) (script : List (Instant × Side × Action)) :
    station.connectors.length ≤ (station.afterActions script).connectors.length := by
  induction script generalizing station with
  | nil =>
      exact Nat.le_refl _
  | cons timed rest ih =>
      exact Nat.le_trans (station.length_connectors_le_perform timed.1 timed.2.2 timed.2.1) (ih _)

theorem length_connectors_afterActions_le
    (station : Station) (script : List (Instant × Side × Action)) :
    (station.afterActions script).connectors.length ≤
      station.connectors.length + script.length := by
  induction script generalizing station with
  | nil =>
      exact Nat.le_refl _
  | cons timed rest ih =>
      rcases timed with ⟨now, side, action⟩
      have first : (station.perform now action side).2.connectors.length ≤
          station.connectors.length + 1 := by
        have linked := station.linked.length_connectors_perform_le now action
        have inside := station.inside.length_connectors_perform_le now action
        cases side with
        | linked | inside =>
            simp only [connectors, perform, onLinked, onInside, List.length_append,
              Network.length_resume]
            omega
      have later := ih (station.perform now action side).2
      rw [List.length_cons]
      exact Nat.le_trans later (by omega)

/-- What every passage keeps, in whatever order the connectors are listed, holds after every run of
a station, as long as identities do not run out. -/
theorem kept_afterActions
    (Inv : Log TransportError → Bus → Prop)
    (kept : ∀ {log : Log TransportError} {bus after : Bus} {now : Instant}
      {entry : Action × SessionBus.Outcome TransportError},
      bus.Counted → after.connectors.length < UInt64.size → Inv log bus →
        bus.Passage now entry after → Inv (log ++ [entry]) after)
    (perm : ∀ {log : Log TransportError} {board : Switchboard}
      {connectors others : List Connector},
      Inv log ⟨board, connectors⟩ → others.Perm connectors → Inv log ⟨board, others⟩)
    {station : Station} {board : Switchboard} {past : Log TransportError}
    (shares : station.Shares board) (counted : Bus.Counted ⟨board, station.connectors⟩)
    (holds : Inv past ⟨board, station.connectors⟩) (script : List (Instant × Side × Action))
    (few : (station.afterActions script).connectors.length < UInt64.size) :
    ∃ after, (station.afterActions script).Shares after ∧
      Bus.Counted ⟨after, (station.afterActions script).connectors⟩ ∧
      Inv (past ++ station.log script) ⟨after, (station.afterActions script).connectors⟩ := by
  induction script generalizing station board past with
  | nil =>
      refine ⟨board, shares, counted, ?_⟩
      rw [log, List.append_nil]
      exact holds
  | cons timed rest ih =>
      rcases timed with ⟨now, side, action⟩
      rw [show past ++ station.log ((now, side, action) :: rest) = _ from
        (List.append_assoc past [_] _).symm]
      have fewNow : (station.perform now action side).2.connectors.length < UInt64.size :=
        Nat.lt_of_le_of_lt (length_connectors_le_afterActions _ rest) few
      cases side with
      | linked =>
          have fewBoth := fewNow
          rw [connectors, List.length_append] at fewBoth
          obtain ⟨after, passage, linked, inside⟩ :=
            Network.passage_shared Sockets.honest Memory.honest shares.linked shares.inside counted
              now action fewBoth
          exact ih ⟨linked, inside⟩ (passage.counted counted fewNow)
            (kept counted fewNow holds passage) few
      | inside =>
          have fewBoth := fewNow
          rw [connectors, List.length_append, Nat.add_comm] at fewBoth
          obtain ⟨after, passage, inside, linked⟩ :=
            Network.passage_shared Memory.honest Sockets.honest shares.inside shares.linked
              (counted.perm List.perm_append_comm) now action fewBoth
          rw [← List.length_append] at fewBoth
          exact ih ⟨linked, inside⟩
            ((passage.counted (counted.perm List.perm_append_comm) fewBoth).perm
              List.perm_append_comm)
            (perm (kept (counted.perm List.perm_append_comm) fewBoth
              (perm holds List.perm_append_comm) passage) List.perm_append_comm) few

end Station

end Command

/-! ## Every kind of run -/

section

variable (Inv : Limits → Log TransportError → Bus → Prop)
  (first : ∀ limits, Inv limits [] (Bus.start limits))
  (kept : ∀ {limits : Limits} {log : Log TransportError} {bus after : Bus} {now : Instant}
    {entry : Action × Outcome TransportError},
    bus.Counted → after.connectors.length < UInt64.size → Inv limits log bus →
      bus.Passage now entry after → Inv limits (log ++ [entry]) after)
  {Tells : Log TransportError → Exchange → List Connector → Prop}
  (tells : ∀ {limits : Limits} {log : Log TransportError} {bus : Bus} {exchange : Exchange},
    Inv limits log bus → bus.Counted → exchange.board = some bus.board →
      Tells log exchange bus.connectors)

include first kept tells

/-- What follows from an invariant of passages holds after every run of a network whose transport
is honest. -/
theorem Network.told_afterActions
    {rel : Transport → Switchboard → List FrameId → Prop} (honest : Transport.Honest rel)
    {network : Network} {limits : Limits} (views : Views rel network (Bus.start limits))
    (script : List (Instant × Action))
    (few : (network.afterActions script).connectors.length < UInt64.size) :
    Tells (network.log script) (network.afterActions script).transport.exchange
      (network.afterActions script).connectors := by
  obtain ⟨after, viewsAfter, counted, holds⟩ :=
    kept_afterActions honest (Inv limits) kept views (Bus.sound_start limits).counted
      (first limits) script few
  rw [viewsAfter.connectors]
  exact tells holds counted (honest.runs viewsAfter.transport)

/-- It holds after every run in memory, behind sockets, and at a station if the order of the
connectors does not matter to the invariant. -/
theorem Bus.told_by_runs
    (perm : ∀ {limits : Limits} {log : Log TransportError} {board : Switchboard}
      {connectors others : List Connector},
      Inv limits log ⟨board, connectors⟩ → others.Perm connectors →
        Inv limits log ⟨board, others⟩)
    (limits : Limits) :
    (∀ script : List (Instant × Action),
      let network := (Network.inMemory limits).afterActions script
      network.connectors.length < UInt64.size →
        Tells ((Network.inMemory limits).log script) network.transport.exchange
          network.connectors) ∧
    (∀ (maxMessageSize : Nat) (path : String) (displayName : Option String)
      (script : List (Instant × Action)),
      let start := Network.onHub limits maxMessageSize path displayName
      let network := start.afterActions script
      network.connectors.length < UInt64.size →
        Tells (start.log script) network.transport.exchange network.connectors) ∧
    ∀ (number : Nat) (settings : Settings) (displayName : String)
      (script : List (Instant × Command.Side × Action)),
      let start := Command.Station.start number settings displayName
      let station := start.afterActions script
      station.connectors.length < UInt64.size →
        Tells (start.log script) station.exchange station.connectors := by
  refine ⟨fun script few => ?_, fun maxMessageSize path displayName script few => ?_,
    fun number settings displayName script few => ?_⟩
  · exact Network.told_afterActions Inv first kept tells Memory.honest
      (Network.views_inMemory limits) script few
  · exact Network.told_afterActions Inv first kept tells Sockets.honest
      (Network.views_onHub limits maxMessageSize path displayName) script few
  · obtain ⟨after, shares, counted, holds⟩ :=
      Command.Station.kept_afterActions (Inv settings.limits) kept perm
        (Command.Station.shares_start number settings displayName)
        (Bus.sound_start settings.limits).counted (first settings.limits) script few
    exact tells holds counted (Sockets.honest.runs shares.linked.transport)

end

end SessionBus
