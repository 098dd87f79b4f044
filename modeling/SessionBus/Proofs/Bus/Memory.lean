import SessionBus.Proofs.Bus.Passage
import SessionBus.Proofs.Bus.Refinement
import SessionBus.Proofs.Registry.Asking

/-!
# Frames in memory are served

Frames that share an exchange in memory are served by it: an answer is that of the switchboard, and
what is collected is what lies in the inbox of the frame.  In particular the exchange is honest.
-/

namespace SessionBus.Memory

/-- The exchange serves the switchboard, times set aside, and holds the packets. -/
def Related : Transport → Switchboard → List FrameId → Pending → Prop
  | .direct exchange, board, _, pending =>
      ∃ timed : Switchboard, exchange.Holds timed pending ∧ timed.timeless = board
  | .linked _, _, _, _ => False

/-- In memory the errors of the switchboard are passed on. -/
def faults : Faults :=
  ⟨.switchboard, .switchboard⟩

theorem related_start (limits : Limits) :
    Related (.direct (.start limits)) (.empty limits) [] .nothing :=
  ⟨.empty limits, Exchange.holds_start limits, rfl⟩

/-- Every related transport is an exchange. -/
theorem exists_of_related
    {transport : Transport} {board : Switchboard} {known : List FrameId} {pending : Pending}
    (related : Related transport board known pending) :
    ∃ exchange timed, transport = .direct exchange ∧ exchange.Holds timed pending ∧
      timed.timeless = board := by
  cases transport with
  | direct exchange =>
      rcases related with ⟨timed, holds, same⟩
      exact ⟨exchange, timed, rfl, holds, same⟩
  | linked sockets =>
      exact related.elim

/-- A call is answered as the switchboard without times answers it. -/
theorem call_related
    {exchange : Exchange} {board : Switchboard} (holds : exchange.Holds board .nothing)
    (known : List FrameId) (frame : FrameId) (now : Instant) (what : Call) :
    (call exchange frame now what).1.map CallResult.timeless =
        (board.timeless.answer frame what).1.mapError faults.call ∧
      Related (.direct (call exchange frame now what).2) (board.timeless.answer frame what).2
        known .nothing := by
  cases what with
  | claim session =>
      rcases holds.claim frame session now with ⟨reply, after⟩
      rcases board.claim_timeless frame session now with ⟨sameReply, sameBoard⟩
      constructor
      · simp only [call, Switchboard.answer, reply, sameReply]
        cases (board.claim frame session now).reply <;> rfl
      · exact ⟨_, after, sameBoard.symm⟩
  | join session displayName =>
      rcases holds.join frame session displayName now with ⟨reply, after⟩
      rcases board.join_timeless frame session displayName now with ⟨sameReply, sameBoard⟩
      constructor
      · simp only [call, Switchboard.answer, reply, sameReply]
        rfl
      · exact ⟨_, after, sameBoard.symm⟩
  | describe session =>
      constructor
      · have running : exchange.isRunning = true := by
          simp [Exchange.isRunning, holds.running]
        simp [call, Switchboard.answer, running, holds.describe, CallResult.timeless, Except.map,
          Switchboard.timeless, SessionTable.describe_timeless]
      · exact ⟨board, holds, rfl⟩

/-- Frames in memory are served, whatever they ask for. -/
theorem serves : Serves Related faults fun _ _ _ => True where
  attach := by
    intro transport board known displayName now related _
    rcases exists_of_related related with ⟨exchange, timed, rfl, holds, rfl⟩
    rcases holds.register with ⟨reply, after⟩
    rcases timed.register_timeless with ⟨sameReply, sameBoard⟩
    constructor
    · simp only [Transport.withName, Transport.attach, Memory.attach, reply, sameReply]
      rfl
    · intro _
      exact ⟨_, after, sameBoard.symm⟩
  call := by
    intro transport board known frame now what related _ _
    rcases exists_of_related related with ⟨exchange, timed, rfl, holds, rfl⟩
    rcases call_related holds known frame now what with ⟨answer, after⟩
    exact ⟨congrArg some answer, after⟩
  send := by
    intro transport board known frame now packet related _ _ _
    rcases exists_of_related related with ⟨exchange, timed, rfl, holds, rfl⟩
    exact ⟨timed, holds.deliver packet.route packet, rfl⟩
  detach := by
    intro transport board known frame now related _ _
    rcases exists_of_related related with ⟨exchange, timed, rfl, holds, rfl⟩
    exact ⟨_, holds.unregister frame, (timed.unregister_timeless frame).symm⟩
  collect := by
    intro transport board known pending frame related
    rcases exists_of_related related with ⟨exchange, timed, rfl, holds, rfl⟩
    rcases holds.collect frame with ⟨packets, after⟩
    exact ⟨packets, timed, after, rfl⟩

/-! ## Honesty -/

/-- The exchange runs the switchboard. -/
def Runs : Transport → Switchboard → List FrameId → Prop
  | .direct exchange, board, _ => exchange.board = some board
  | .linked _, _, _ => False

theorem runs_start (limits : Limits) : Runs (.direct (.start limits)) (.empty limits) [] :=
  rfl

theorem exists_of_runs
    {transport : Transport} {board : Switchboard} {known : List FrameId}
    (runs : Runs transport board known) :
    ∃ exchange, transport = .direct exchange ∧ exchange.board = some board := by
  cases transport with
  | direct exchange =>
      exact ⟨exchange, rfl, runs⟩
  | linked sockets =>
      exact runs.elim

theorem honest : Transport.Honest Runs where
  runs := by
    intro transport board known runs
    rcases exists_of_runs runs with ⟨exchange, rfl, running⟩
    exact running
  attach := by
    intro transport board known displayName now runs
    rcases exists_of_runs runs with ⟨exchange, rfl, running⟩
    obtain ⟨reply, after⟩ := Exchange.request_of_running running (.error .closed) (·.register)
    simp only [Transport.withName, Transport.attach, attach, Exchange.register, reply]
    cases said : board.register.reply with
    | error error =>
        refine .inl ⟨.switchboard error, rfl, ?_⟩
        rw [board.board_of_register_refused said] at after
        exact after
    | ok frame =>
        exact .inr ⟨frame, rfl, rfl, fun _ => after⟩
  call := by
    intro transport board known frame now what runs
    rcases exists_of_runs runs with ⟨exchange, rfl, running⟩
    cases what with
    | claim session =>
        obtain ⟨reply, after⟩ := Exchange.request_of_running running (.error .closed)
          (·.claim frame session now)
        simp only [Transport.call, call, Exchange.claim, reply]
        cases said : (board.claim frame session now).reply with
        | ok claimed =>
            exact ⟨_, .claimed said, after⟩
        | error error =>
            rw [board.board_of_claim_refused said] at after
            exact ⟨board, .undecided (by simp [Except.map]) (by simp [Except.map]), after⟩
    | join session displayName =>
        let closed : Except SwitchboardError Bool := .error .closed
        obtain ⟨reply, after⟩ := Exchange.request_of_running running closed
          fun board => (board.join frame session displayName now).map .ok
        simp only [closed] at reply
        simp only [Transport.call, call, Exchange.join, reply]
        exact ⟨_, .joined session displayName, after⟩
    | describe session =>
        refine ⟨board, .undecided ?_ ?_, running⟩ <;>
          · simp only [Transport.call, call]
            split <;> simp
  send := by
    intro transport board known frame now route packet runs
    rcases exists_of_runs runs with ⟨exchange, rfl, running⟩
    exact (Exchange.request_of_running running () (·.deliver route packet)).2
  detach := by
    intro transport board known frame now runs
    rcases exists_of_runs runs with ⟨exchange, rfl, running⟩
    obtain ⟨_, after⟩ := Exchange.request_of_running running () (·.unregister frame)
    rcases board.kept_unregister frame with ⟨table, next⟩
    exact ⟨_, table, next, after⟩
  collect := by
    intro transport board known frame runs
    rcases exists_of_runs runs with ⟨exchange, rfl, running⟩
    exact running
  resume := by
    intro transport board after known exchange runs running
    rcases exists_of_runs runs with ⟨_, rfl, _⟩
    exact running

end SessionBus.Memory
