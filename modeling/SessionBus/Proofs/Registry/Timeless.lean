import SessionBus.Registry.Switchboard

/-!
# Times do not matter to a switchboard

The records of sessions keep the times at which they were made and at which their members came, and
nothing ever looks at these times.  A switchboard all of whose times are set to one instant
therefore answers every request as the switchboard itself does.
-/

namespace SessionBus

namespace Member

def timeless (member : Member) : Member :=
  { member with joinedAt := .epoch }

end Member

namespace Session

def timeless (session : Session) : Session :=
  { session with createdAt := .epoch, members := session.members.map Member.timeless }

theorem hasMember_timeless (session : Session) (frame : FrameId) :
    session.timeless.hasMember frame = session.hasMember frame := by
  simp [hasMember, timeless, Member.timeless, List.any_map, Function.comp_def]

theorem timeless_founded (id : SessionId) (owner : FrameId) (now : Instant) :
    (founded id owner now).timeless = founded id owner .epoch :=
  rfl

theorem timeless_rename (session : Session) (frame : FrameId) (displayName : String) :
    (session.rename frame displayName).timeless = session.timeless.rename frame displayName := by
  have each : ∀ member : Member,
      Member.timeless
          (if member.frame = frame then { member with displayName := some displayName }
            else member) =
        if member.timeless.frame = frame then
          { member.timeless with displayName := some displayName }
        else member.timeless := by
    intro member
    have same : member.timeless.frame = member.frame := rfl
    rw [same]
    split <;> rfl
  simp only [rename, timeless, List.map_map]
  congr 1
  exact List.map_congr_left fun member _ => each member

theorem timeless_enroll
    (session : Session) (frame : FrameId) (displayName : String) (now : Instant) :
    (session.enroll frame displayName now).timeless =
      session.timeless.enroll frame displayName .epoch := by
  simp [enroll, timeless, Member.timeless]

end Session

namespace SessionTable

def timeless (table : SessionTable) : SessionTable :=
  { table with sessions := table.sessions.map Session.timeless }

theorem describe_timeless (table : SessionTable) (id : SessionId) :
    table.timeless.describe id = (table.describe id).map Session.timeless := by
  simp [describe, timeless, List.find?_map, Function.comp_def, Session.timeless]

theorem map_timeless_insertSession (record : Session) (sessions : List Session) :
    (insertSession record sessions).map Session.timeless =
      insertSession record.timeless (sessions.map Session.timeless) := by
  induction sessions with
  | nil =>
      rfl
  | cons next rest ih =>
      have same : ∀ session : Session, session.timeless.id = session.id := fun _ => rfl
      unfold insertSession
      split
      · rename_i before
        simp [same, before]
      · rename_i after
        simp [same, after, ih]

theorem timeless_modify
    (table : SessionTable) (id : SessionId) {change : Session → Session}
    (changed : Session → Session)
    (agree : ∀ session, (change session).timeless = changed session.timeless) :
    (table.modify id change).timeless = table.timeless.modify id changed := by
  have each : ∀ session : Session,
      (if session.id = id then change session else session).timeless =
        if session.timeless.id = id then changed session.timeless else session.timeless := by
    intro session
    have same : session.timeless.id = session.id := rfl
    rw [same]
    split
    · exact agree session
    · rfl
  simp only [modify, timeless, List.map_map]
  congr 1
  exact List.map_congr_left fun session _ => each session

theorem claim_timeless
    (table : SessionTable) (frame : FrameId) (id : SessionId) (now : Instant) :
    table.timeless.claim frame id .epoch =
      (table.claim frame id now).map fun (outcome, table) => (outcome, table.timeless) := by
  have size : table.timeless.size = table.size := List.length_map _
  have room : table.timeless.maxSessions = table.maxSessions := rfl
  unfold claim
  rw [describe_timeless, size, room]
  cases table.describe id with
  | some session =>
      rfl
  | none =>
      simp only [Option.map_none]
      split
      · rfl
      · simp [Except.map, timeless, map_timeless_insertSession, Session.timeless_founded]

/-- A wish to join does not depend on times. -/
theorem join_timeless
    (table : SessionTable) (frame : FrameId) (id : SessionId) (displayName : String)
    (now : Instant) :
    table.timeless.join frame id displayName .epoch =
      ((table.join frame id displayName now).1,
        (table.join frame id displayName now).2.timeless) := by
  unfold join
  rw [describe_timeless]
  cases table.describe id with
  | none =>
      rfl
  | some session =>
      simp only [Option.map_some, Session.hasMember_timeless]
      split
      · have renamed := table.timeless_modify id (·.rename frame displayName)
          fun session => session.timeless_rename frame displayName
        rw [renamed]
      · have enrolled := table.timeless_modify id (·.enroll frame displayName .epoch)
          fun session => session.timeless_enroll frame displayName now
        rw [enrolled]

end SessionTable

namespace Switchboard

def timeless (board : Switchboard) : Switchboard :=
  { board with table := board.table.timeless }

theorem register_timeless (board : Switchboard) :
    board.timeless.register.reply = board.register.reply ∧
      board.timeless.register.board = board.register.board.timeless := by
  have frames : board.timeless.frames = board.frames := rfl
  have most : board.timeless.maxFrames = board.maxFrames := rfl
  unfold register
  rw [frames, most]
  split <;> exact ⟨rfl, rfl⟩

theorem unregister_timeless (board : Switchboard) (frame : FrameId) :
    (board.timeless.unregister frame).board = (board.unregister frame).board.timeless := by
  have frames : board.timeless.frames = board.frames := rfl
  unfold unregister
  rw [frames]
  split <;> rfl

theorem claim_timeless
    (board : Switchboard) (frame : FrameId) (session : SessionId) (now : Instant) :
    (board.timeless.claim frame session .epoch).reply = (board.claim frame session now).reply ∧
      (board.timeless.claim frame session .epoch).board =
        (board.claim frame session now).board.timeless := by
  have table := board.table.claim_timeless frame session now
  have same : board.timeless.table = board.table.timeless := rfl
  unfold claim
  rw [same, table]
  cases board.table.claim frame session now with
  | error error =>
      exact ⟨rfl, rfl⟩
  | ok result =>
      exact ⟨rfl, rfl⟩

theorem join_timeless
    (board : Switchboard) (frame : FrameId) (session : SessionId) (displayName : String)
    (now : Instant) :
    (board.timeless.join frame session displayName .epoch).reply =
        (board.join frame session displayName now).reply ∧
      (board.timeless.join frame session displayName .epoch).board =
        (board.join frame session displayName now).board.timeless := by
  have table := board.table.join_timeless frame session displayName now
  have same : board.timeless.table = board.table.timeless := rfl
  unfold join
  rw [same, table]
  exact ⟨rfl, rfl⟩

end Switchboard

end SessionBus
