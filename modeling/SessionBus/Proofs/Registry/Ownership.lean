import SessionBus.Proofs.Registry.Run
import SessionBus.Proofs.Registry.Table

/-!
# Ownership of sessions over whole runs

The first frame whose claim of a session succeeds owns it in every later state of the switchboard,
whatever is asked afterwards and by whom.  The invariant is the owner that the table gives for the
session: no command takes it away or changes it, and as long as there is none only a successful
claim brings one about.

The main statement speaks of the answers alone.  It follows the answers of a run up to the first
successful claim and from there on.
-/

namespace SessionBus

namespace Step

/-- The frame whose claim of a session this step grants. -/
def winner? (session : SessionId) (step : Step) : Option FrameId :=
  match step.command, step.reply with
  | .claim frame id, .claimed (.ok true) => if id = session then some frame else none
  | _, _ => none

/-- What a step shows of a session that belongs to a frame. -/
structure Respects (session : SessionId) (owner : FrameId) (step : Step) : Prop where
  described : (step.before.table.describe session).map (·.owner) = some owner
  keeps : (step.after.table.describe session).map (·.owner) = some owner
  answersOwner : step.command = .claim owner session → step.reply = .claimed (.ok true)
  answersOther :
    ∀ frame, frame ≠ owner → step.command = .claim frame session →
      step.reply = .claimed (.ok false) ∧ step.after.table = step.before.table
  answersJoin :
    ∀ frame displayName, step.command = .join frame session displayName →
      step.reply = .joined true
  answersQuery :
    step.command = .describe session →
      ∃ record, step.reply = .described (some record) ∧ record.owner = owner

end Step

namespace Switchboard

/-- The owner that the switchboard knows for a session. -/
def owner? (board : Switchboard) (session : SessionId) : Option FrameId :=
  board.table.owner? session

/-- The turn of a claim of a session that has an owner. -/
theorem claim_of_owned
    {board : Switchboard} {session : SessionId} {owner : FrameId}
    (owned : board.owner? session = some owner) (frame : FrameId) (now : Instant) :
    (board.claim frame session now).reply = .ok (decide (owner = frame)) ∧
      (board.claim frame session now).board = board := by
  rw [claim, SessionTable.claim_of_owned owned]
  by_cases same : owner = frame <;> simp [same, ClaimOutcome.succeeded]

/-- No command takes a session from its owner. -/
theorem owner?_handle_of_owned
    {board : Switchboard} {session : SessionId} {owner : FrameId}
    (owned : board.owner? session = some owner) (now : Instant) (command : Command) :
    (board.handle now command).board.owner? session = some owner := by
  cases command with
  | register =>
      simp only [handle, Turn.map, register]
      split <;> exact owned
  | unregister frame =>
      simp only [handle, Turn.map, unregister]
      split <;> exact owned
  | claim frame id =>
      simp only [handle, Turn.map]
      cases known : board.owner? id with
      | some other =>
          rw [(claim_of_owned known frame now).2]
          exact owned
      | none =>
          have other : session ≠ id := by
            rintro rfl
            simp [known] at owned
          rw [claim, SessionTable.claim_of_unowned known]
          split
          · rename_i full
            split at full <;> simp_all
          · rename_i outcome table room
            split at room
            · cases room
            · cases room
              exact (SessionTable.owner?_founded known frame now session).trans
                ((if_neg other).trans owned)
  | join frame id displayName =>
      exact (SessionTable.owner?_join board.table frame id displayName now session).trans owned
  | describe id =>
      exact owned
  | list =>
      exact owned
  | count =>
      exact owned
  | deliver route packet =>
      exact owned

end Switchboard

namespace Step

/-- Every step keeps the owner of a session. -/
theorem owner?_after_of_owned
    {step : Step} {session : SessionId} {owner : FrameId}
    (owned : step.before.owner? session = some owner) :
    step.after.owner? session = some owner :=
  Switchboard.owner?_handle_of_owned owned step.now step.command

/-- A session without owner gets one only from a claim of it that is granted. -/
theorem owner?_after_of_unowned
    {step : Step} {session : SessionId}
    (unowned : step.before.owner? session = none) :
    step.after.owner? session = step.winner? session := by
  rcases step with ⟨board, now, command⟩
  change board.owner? session = none at unowned
  cases command with
  | register =>
      simp only [after, turn, winner?, Switchboard.handle, Turn.map, Switchboard.register]
      split <;> exact unowned
  | unregister frame =>
      simp only [after, turn, winner?, Switchboard.handle, Turn.map, Switchboard.unregister]
      split <;> exact unowned
  -- Only a claim can found a session, and only if the table has room for one more.
  | claim frame id =>
      simp only [after, reply, turn, winner?, Switchboard.handle, Turn.map]
      cases known : board.owner? id with
      | some other =>
          have different : id ≠ session := by
            rintro rfl
            simp [known] at unowned
          rw [(Switchboard.claim_of_owned known frame now).1,
            (Switchboard.claim_of_owned known frame now).2, unowned]
          by_cases same : other = frame <;> simp [same, different]
      | none =>
          rw [Switchboard.claim, SessionTable.claim_of_unowned known]
          by_cases full : board.table.maxSessions ≤ board.table.size
          · simpa [full] using unowned
          · have founded :=
              SessionTable.owner?_founded known frame now session
            simp only [full, if_false, ClaimOutcome.succeeded]
            refine founded.trans ?_
            by_cases same : id = session
            · simp [same]
            · have asked : session ≠ id := fun equal => same equal.symm
              rw [if_neg same, if_neg asked]
              exact unowned
  | join frame id displayName =>
      exact (SessionTable.owner?_join board.table frame id displayName now session).trans unowned
  | describe id =>
      exact unowned
  | list =>
      exact unowned
  | count =>
      exact unowned
  | deliver route packet =>
      exact unowned

/-- A wish to join is answered by whether the session has an owner. -/
theorem reply_of_join
    {step : Step} {frame : FrameId} {session : SessionId} {displayName : String}
    (asked : step.command = .join frame session displayName) :
    step.reply = .joined (step.before.owner? session).isSome := by
  rw [reply, turn, asked]
  exact congrArg Reply.joined
    (SessionTable.succeeded_join step.before.table frame session displayName step.now)

/-- What a step shows of a session that has an owner before it. -/
theorem respects_of_owned
    {step : Step} {session : SessionId} {owner : FrameId}
    (owned : step.before.owner? session = some owner) :
    step.Respects session owner where
  described := owned
  keeps := owner?_after_of_owned owned
  answersOwner := by
    intro asked
    rw [reply, turn, asked]
    simp [Switchboard.handle, Turn.map, (Switchboard.claim_of_owned owned owner step.now).1]
  answersOther := by
    intro frame other asked
    have different : owner ≠ frame := fun equal => other equal.symm
    rcases Switchboard.claim_of_owned owned frame step.now with ⟨answer, unchanged⟩
    rw [reply, after, turn, asked]
    simp [Switchboard.handle, Turn.map, answer, unchanged, different]
  answersJoin := by
    intro frame displayName asked
    simp [reply_of_join asked, owned]
  answersQuery := by
    intro asked
    rcases Option.map_eq_some_iff.mp owned with ⟨record, found, owns⟩
    refine ⟨record, ?_, owns⟩
    rw [reply, turn, asked]
    simp [Switchboard.handle, found]

/-- In a state where the session has an owner, only that owner's claims are granted. -/
theorem winner?_eq_owner
    {step : Step} {session : SessionId} {owner frame : FrameId}
    (owned : step.before.owner? session = some owner)
    (won : step.winner? session = some frame) :
    frame = owner := by
  unfold winner? at won
  split at won
  · rename_i claimant id asked granted
    split at won
    · rename_i same
      subst same
      cases won
      by_cases equal : frame = owner
      · exact equal
      · have refused := ((respects_of_owned owned).answersOther frame equal asked).1
        rw [granted] at refused
        simp at refused
    · simp at won
  · simp at won

end Step

namespace Switchboard

/-- As long as no claim of a session is granted it has no owner. -/
theorem owner?_afterSteps_of_unwon
    {board : Switchboard} {commands : List (Instant × Command)} {session : SessionId}
    {past future : List Step}
    (unowned : board.owner? session = none)
    (split : board.run commands = past ++ future)
    (unwon : ∀ step ∈ past, step.winner? session = none) :
    (board.afterSteps past).owner? session = none := by
  induction past generalizing board commands with
  | nil =>
      exact unowned
  | cons step past ih =>
      rcases before_of_run_eq_cons split with ⟨here, rest, continues⟩
      have stillUnowned : step.after.owner? session = none := by
        rw [Step.owner?_after_of_unowned (here ▸ unowned)]
        exact unwon step List.mem_cons_self
      exact ih stillUnowned continues.symm fun later member =>
        unwon later (List.mem_cons_of_mem step member)

end Switchboard

namespace Step

/-- A claimant whose claim is granted owns the session from then on. -/
theorem owner?_after_of_winner
    {step : Step} {session : SessionId} {owner : FrameId}
    (won : step.winner? session = some owner) :
    step.after.owner? session = some owner := by
  cases known : step.before.owner? session with
  | none =>
      rw [owner?_after_of_unowned known, won]
  | some other =>
      rw [winner?_eq_owner known won]
      exact owner?_after_of_owned known

end Step

namespace Switchboard

/-- After a granted claim every step of the run respects the owner. -/
theorem respects_of_mem_after_winner
    {board : Switchboard} {commands : List (Instant × Command)} {session : SessionId}
    {past future : List Step} {step : Step} {owner : FrameId}
    (split : board.run commands = past ++ step :: future)
    (won : step.winner? session = some owner)
    {later : Step} (member : later ∈ future) :
    later.Respects session owner := by
  rcases run_eq_append split with ⟨rest, here⟩
  rcases before_of_run_eq_cons here.symm with ⟨_, remaining, continues⟩
  rw [continues] at member
  have owned :=
    holds_of_mem_run (fun board => board.owner? session = some owner)
      (fun _ => Step.owner?_after_of_owned) (Step.owner?_after_of_winner won) member
  exact Step.respects_of_owned owned.1

/-- A claimant whose claim is granted is still the owner at the end of the run. -/
theorem owner?_afterSteps_of_winner
    {board : Switchboard} {commands : List (Instant × Command)} {session : SessionId}
    {step : Step} {owner : FrameId}
    (member : step ∈ board.run commands) (won : step.winner? session = some owner) :
    (board.afterSteps (board.run commands)).owner? session = some owner := by
  induction commands generalizing board with
  | nil =>
      simp [run] at member
  | cons timed rest ih =>
      simp only [run, List.mem_cons] at member
      rcases member with rfl | later
      · exact holds_afterSteps_run (fun board => board.owner? session = some owner)
          (fun _ => Step.owner?_after_of_owned) (Step.owner?_after_of_winner won) rest
      · exact ih later

/--
Ownership of a session is exclusive and permanent.  Once a claim of it is granted, the claimant is
its owner in every later state and every later answer says so; before that every wish to join is
refused; and claims of one session are granted to one frame only.
-/
theorem ownership_exclusive_and_permanent
    (limits : Limits) (commands : List (Instant × Command)) (session : SessionId) :
    (∀ past step future,
      (Switchboard.empty limits).run commands = past ++ step :: future →
        (∀ owner, step.winner? session = some owner →
          (step.after.table.describe session).map (·.owner) = some owner ∧
            ∀ later ∈ future, later.Respects session owner) ∧
        ((∀ earlier ∈ past, earlier.winner? session = none) →
          ∀ frame displayName, step.command = .join frame session displayName →
            step.reply = .joined false)) ∧
    (∀ first ∈ (Switchboard.empty limits).run commands,
      ∀ second ∈ (Switchboard.empty limits).run commands,
        ∀ owner other, first.winner? session = some owner →
          second.winner? session = some other → owner = other) := by
  have unowned : (Switchboard.empty limits).owner? session = none := rfl
  refine ⟨fun past step future split => ⟨fun owner won => ?_, fun unwon frame name asked => ?_⟩,
    fun first firstMember second secondMember owner other firstWon secondWon => ?_⟩
  · exact ⟨Step.owner?_after_of_winner won, fun later member =>
      respects_of_mem_after_winner split won member⟩
  · rcases run_eq_append split with ⟨rest, here⟩
    rcases before_of_run_eq_cons here.symm with ⟨before, _⟩
    rw [Step.reply_of_join asked, before, owner?_afterSteps_of_unwon unowned split unwon]
    rfl
  · have firstOwns := owner?_afterSteps_of_winner firstMember firstWon
    have secondOwns := owner?_afterSteps_of_winner secondMember secondWon
    exact Option.some.inj (firstOwns.symm.trans secondOwns)

/-- A rival is refused even after the owner has gone. -/
theorem rival_refused_after_farewell :
    let commands : List (Instant × Command) :=
      [(.epoch, .register), (.epoch, .register), (.epoch, .claim ⟨1⟩ ⟨"plan"⟩),
        (.epoch, .unregister ⟨1⟩), (.epoch, .claim ⟨2⟩ ⟨"plan"⟩)]
    ((Switchboard.empty ⟨2, 1⟩).run commands).getLast?.map Step.reply =
      some (.claimed (.ok false)) := by
  intro commands
  let run := (Switchboard.empty ⟨2, 1⟩).run commands
  have granted := ((ownership_exclusive_and_permanent ⟨2, 1⟩ commands ⟨"plan"⟩).1
    (run.take 2) (run.get ⟨2, by decide⟩) (run.drop 3) rfl).1 ⟨1⟩ rfl
  have last : run.get ⟨4, by decide⟩ ∈ run.drop 3 := List.mem_cons_of_mem _ List.mem_cons_self
  have refused := (granted.2 _ last).answersOther ⟨2⟩ (by decide) rfl
  exact congrArg some refused.1

end Switchboard

end SessionBus
