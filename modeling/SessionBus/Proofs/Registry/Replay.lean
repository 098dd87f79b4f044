import SessionBus.Proofs.Registry.Growth
import SessionBus.Proofs.Registry.Ownership
import SessionBus.Proofs.Registry.Timeless
import SessionBus.Proofs.Registry.Turn

/-!
# Events tell the whole state

A replica knows a switchboard from its events alone.  It begins with nothing and does for each event
what the event says, without limits, counters or answers, and without asking whether the switchboard
would have done the same.  The main statement is that after all commands the replica has the same
frames and, times apart, the same sessions as the switchboard, and that a command is told in exactly
one event unless it belongs to the kinds in `Step.Quiet`.
-/

namespace SessionBus

/-- The frames and the records of sessions as the events tell them, all times at one instant. -/
structure Replica where
  frames : FrameSet
  sessions : SessionId → Option Session

namespace Replica

def empty : Replica where
  frames := .empty
  sessions := fun _ => none

/-- The record when it is told that a frame has joined: a member has another name from now on, and
everybody else comes to stand behind the members. -/
def welcome (session : Session) (frame : FrameId) (displayName : String) : Session :=
  if frame ∈ session.members.map (·.frame) then
    { session with
      members := session.members.map fun member =>
        if member.frame = frame then { member with displayName := some displayName } else member }
  else
    { session with
      members := session.members ++ [⟨frame, some displayName, .member, .epoch⟩] }

def heed (replica : Replica) : Event → Replica
  | .registered frame => { replica with frames := replica.frames.insert frame }
  | .unregistered frame => { replica with frames := replica.frames.erase frame }
  | .claimed session owner =>
      { replica with
        sessions := fun id =>
          if id = session then some ⟨session, owner, .epoch, [⟨owner, none, .owner, .epoch⟩]⟩
          else replica.sessions id }
  | .joined session frame displayName =>
      { replica with
        sessions := fun id =>
          if id = session then (replica.sessions id).map (welcome · frame displayName)
          else replica.sessions id }

def heedAll (replica : Replica) : List Event → Replica
  | [] => replica
  | event :: rest => (replica.heed event).heedAll rest

@[simp]
theorem heedAll_nil (replica : Replica) : replica.heedAll [] = replica :=
  rfl

@[simp]
theorem heedAll_singleton (replica : Replica) (event : Event) :
    replica.heedAll [event] = replica.heed event :=
  rfl

theorem heedAll_append (replica : Replica) (before after : List Event) :
    replica.heedAll (before ++ after) = (replica.heedAll before).heedAll after := by
  induction before generalizing replica with
  | nil =>
      rfl
  | cons event rest ih =>
      exact ih (replica.heed event)

/-- A record without times is changed by a wish to join as it is by the event. -/
theorem welcome_timeless (session : Session) (frame : FrameId) (displayName : String)
    (now : Instant) :
    welcome session.timeless frame displayName =
      (if session.hasMember frame then session.rename frame displayName
        else session.enroll frame displayName now).timeless := by
  have known := session.hasMember_timeless frame
  by_cases member : session.hasMember frame = true
  · have inside := Session.hasMember_eq_true.mp (known.trans member)
    rw [if_pos member, Session.timeless_rename, welcome, if_pos inside]
    rfl
  · have outside : ¬ frame ∈ session.timeless.members.map (·.frame) := by
      rw [← Session.hasMember_eq_true, known]
      exact member
    rw [if_neg member, Session.timeless_enroll, welcome, if_neg outside]
    rfl

/-- A replica that agrees with a switchboard. -/
structure Mirrors (replica : Replica) (board : Switchboard) : Prop where
  frames : replica.frames = board.frames
  sessions : ∀ id, replica.sessions id = (board.table.describe id).map Session.timeless

theorem mirrors_empty (limits : Limits) : empty.Mirrors (.empty limits) where
  frames := rfl
  sessions := fun _ => rfl

variable {replica : Replica} {board : Switchboard}

theorem Mirrors.register (mirrors : replica.Mirrors board) :
    (replica.heedAll board.register.events).Mirrors board.register.board := by
  unfold Switchboard.register
  split
  · exact mirrors
  · refine ⟨?_, mirrors.sessions⟩
    exact congrArg (FrameSet.insert · _) mirrors.frames

theorem Mirrors.unregister (mirrors : replica.Mirrors board) (frame : FrameId) :
    (replica.heedAll (board.unregister frame).events).Mirrors (board.unregister frame).board := by
  unfold Switchboard.unregister
  split
  · refine ⟨?_, mirrors.sessions⟩
    exact congrArg (FrameSet.erase · _) mirrors.frames
  · exact mirrors

theorem Mirrors.claim
    (mirrors : replica.Mirrors board) (frame : FrameId) (session : SessionId) (now : Instant) :
    (replica.heedAll (board.claim frame session now).events).Mirrors
      (board.claim frame session now).board := by
  rcases board.claim_cases frame session now with
    ⟨owner, _, turn⟩ | ⟨unowned, turn | turn⟩
  · rw [turn]
    exact mirrors
  · rw [turn]
    exact mirrors
  · have absent : board.table.describe session = none := Option.map_eq_none_iff.mp unowned
    rw [turn]
    refine ⟨mirrors.frames, fun id => ?_⟩
    simp only [SessionTable.describe_founded absent, heedAll_singleton, heed]
    split
    · simp [Session.founded, Session.timeless, Member.timeless]
    · exact mirrors.sessions id

theorem Mirrors.join
    (mirrors : replica.Mirrors board) (frame : FrameId) (session : SessionId)
    (displayName : String) (now : Instant) :
    (replica.heedAll (board.join frame session displayName now).events).Mirrors
      (board.join frame session displayName now).board := by
  rcases board.join_cases frame session displayName now with ⟨_, turn⟩ | ⟨_, turn⟩
  · rw [turn]
    exact mirrors
  · rw [turn]
    refine ⟨mirrors.frames, fun id => ?_⟩
    simp only [SessionTable.describe_enter_join, heedAll_singleton, heed, mirrors.sessions id]
    cases known : board.table.describe id with
    | none =>
        simp
    | some record =>
        have key := SessionTable.id_of_describe known
        by_cases here : id = session
        · subst here
          simp [Session.entered, key, welcome_timeless record frame displayName now]
        · have elsewhere : ¬ session = record.id := by
            rw [key]
            exact Ne.symm here
          simp [Session.entered, here, elsewhere]

theorem Mirrors.step {step : Step} (mirrors : replica.Mirrors step.before) :
    (replica.heedAll step.turn.events).Mirrors step.after := by
  rcases step with ⟨board, now, command⟩
  cases command with
  | register =>
      exact mirrors.register
  | unregister frame =>
      exact mirrors.unregister frame
  | claim frame session =>
      exact mirrors.claim frame session now
  | join frame session displayName =>
      exact mirrors.join frame session displayName now
  | describe | list | count | deliver =>
      exact mirrors

theorem Mirrors.run (mirrors : replica.Mirrors board) (commands : List (Instant × Command)) :
    (replica.heedAll ((board.run commands).flatMap (·.turn.events))).Mirrors
      (board.afterSteps (board.run commands)) := by
  induction commands generalizing replica board with
  | nil =>
      exact mirrors
  | cons timed rest ih =>
      rw [Switchboard.run, List.flatMap_cons, heedAll_append]
      let step : Step := ⟨board, timed.1, timed.2⟩
      have next : (replica.heedAll step.turn.events).Mirrors step.after := Mirrors.step mirrors
      exact ih next

end Replica

/-! ## How many events there are -/

namespace Step

/-- The steps of which observers are not told: what is refused, a claim by the owner, a farewell of
an unknown frame, queries and deliveries. -/
def Quiet (step : Step) : Prop :=
  match step.command with
  | .register => ∃ error, step.reply = .registered (.error error)
  | .unregister frame => frame ∉ step.before.frames.toList
  | .claim frame session =>
      (∃ error, step.reply = .claimed (.error error)) ∨ step.reply = .claimed (.ok false) ∨
        step.before.owner? session = some frame
  | .join _ _ _ => step.reply = .joined false
  | .describe _ | .list | .count | .deliver _ _ => True

/-- A step is told in one event unless it is quiet. -/
theorem quiet_or_told (step : Step) :
    step.Quiet ∧ step.turn.events = [] ∨
      ¬ step.Quiet ∧ ∃ event, step.turn.events = [event] := by
  rcases step with ⟨board, now, command⟩
  cases command with
  | register =>
      simp only [Quiet, reply, turn, Switchboard.handle, Turn.map]
      by_cases full : board.maxFrames ≤ board.frames.size
      · rw [board.register_of_full full]
        exact .inl ⟨⟨_, rfl⟩, rfl⟩
      · rw [board.register_of_room full]
        exact .inr ⟨by simp, _, rfl⟩
  | unregister frame =>
      simp only [Quiet, turn, Switchboard.handle, Turn.map, Switchboard.unregister]
      split
      · rename_i known
        exact .inr ⟨not_not_intro (FrameSet.contains_eq_true.mp known), _, rfl⟩
      · rename_i unknown
        exact .inl ⟨fun inside => unknown (FrameSet.contains_eq_true.mpr inside), rfl⟩
  | claim frame session =>
      simp only [Quiet, reply, turn, Switchboard.handle, Turn.map]
      rcases board.claim_cases frame session now with
        ⟨owner, owned, turn⟩ | ⟨unowned, turn | turn⟩
      · rw [turn]
        refine .inl ⟨.inr ?_, rfl⟩
        by_cases own : owner = frame
        · exact .inr (own ▸ owned)
        · exact .inl (by simp [own])
      · rw [turn]
        exact .inl ⟨.inl ⟨_, rfl⟩, rfl⟩
      · rw [turn]
        refine .inr ⟨?_, _, rfl⟩
        rintro (⟨_, ⟨⟩⟩ | ⟨⟨⟩⟩ | owns)
        have known := unowned.symm.trans owns
        cases known
  | join frame session displayName =>
      simp only [Quiet, reply, turn, Switchboard.handle, Turn.map]
      rcases board.join_cases frame session displayName now with ⟨_, turn⟩ | ⟨_, turn⟩
      · rw [turn]
        exact .inl ⟨rfl, rfl⟩
      · rw [turn]
        exact .inr ⟨by simp, _, rfl⟩
  | describe | list | count | deliver =>
      exact .inl ⟨trivial, rfl⟩

end Step

namespace Switchboard

/-- The events of a run tell all frames and, times apart, all sessions that there are after it, in
one event for each step that is not quiet. -/
theorem events_tell_state (limits : Limits) (commands : List (Instant × Command)) :
    let steps := (empty limits).run commands
    let board := (empty limits).afterSteps steps
    let replica := Replica.empty.heedAll (steps.flatMap (·.turn.events))
    replica.frames = board.frames ∧
      (∀ id, replica.sessions id = (board.table.describe id).map Session.timeless) ∧
      (∀ session, session ∈ board.table.sessions.map Session.timeless ↔
        ∃ id, replica.sessions id = some session) ∧
      SessionTable.Ordered board.table.sessions ∧
      ∀ step ∈ steps,
        (step.Quiet → step.turn.events = []) ∧
          (¬ step.Quiet → ∃ event, step.turn.events = [event]) := by
  intro steps board replica
  have mirrors : replica.Mirrors board := (Replica.mirrors_empty limits).run commands
  have formed : board.table.Formed limits.maxSessions :=
    holds_afterSteps_run (fun board => board.table.Formed limits.maxSessions)
      (fun step before => formed_handle before step.now step.command)
      (SessionTable.formed_empty limits.maxSessions) commands
  refine ⟨mirrors.frames, mirrors.sessions, fun session => ?_, formed.ordered, fun step _ => ?_⟩
  · simp only [List.mem_map, SessionTable.mem_sessions_iff formed.ordered, mirrors.sessions,
      Option.map_eq_some_iff]
    constructor
    · rintro ⟨record, ⟨id, found⟩, rfl⟩
      exact ⟨id, record, found, rfl⟩
    · rintro ⟨id, record, found, rfl⟩
      exact ⟨record, ⟨id, found⟩, rfl⟩
  · rcases step.quiet_or_told with ⟨quiet, silent⟩ | ⟨loud, told⟩
    · exact ⟨fun _ => silent, fun loud => absurd quiet loud⟩
    · exact ⟨fun quiet => absurd quiet loud, fun _ => told⟩

end Switchboard

end SessionBus
