import SessionBus.Proofs.Registry.Entries
import SessionBus.Proofs.Registry.Growth
import SessionBus.Proofs.Registry.Turn

/-!
# What a command leaves as it is

A command that is refused, or that asks for what is so already, leaves the whole switchboard as it
was, the counter of identities included.  Any other command changes what it names: registering and
unregistering reach the frames, claims and wishes to join reach the record of their session, and
nothing else moves.

A frame that has entered a session may ask for it again.  A repeated claim finds its owner, and a
repeated wish to join finds its member under the name that it gives, whatever has been asked in
between, as long as the frame has not taken another name there.
-/

namespace SessionBus

/-! ## Records -/

namespace Session

/-- A frame is a member under a name. -/
structure Names (session : Session) (frame : FrameId) (displayName : String) : Prop where
  member : session.hasMember frame = true
  named : ∀ entry ∈ session.entriesOf frame, entry.displayName = some displayName

variable {session : Session} {frame : FrameId} {displayName : String}

/-- Whoever joins is a member under the name that it gives. -/
theorem names_entered_join (session : Session) (frame : FrameId) (displayName : String)
    (now : Instant) :
    (session.entered now (.join frame session.id displayName)).Names frame displayName := by
  simp only [entered, if_true]
  split
  · rename_i already
    refine ⟨?_, fun entry => displayName_of_mem_rename session frame displayName⟩
    rw [hasMember_eq_true, frames_rename, ← hasMember_eq_true]
    exact already
  · rename_i new
    have absent : session.hasMember frame = false := Bool.eq_false_iff.mpr new
    refine ⟨?_, fun entry => displayName_of_mem_enroll session frame displayName now absent⟩
    simp [hasMember, enroll]

/-- A member keeps its name until it joins again under another one. -/
theorem Names.entered
    (names : session.Names frame displayName) (now : Instant) {entrance : Entrance}
    (keeps : ∀ other, entrance = .join frame session.id other → other = displayName) :
    (session.entered now entrance).Names frame displayName := by
  cases entrance with
  | claim claimant id =>
      exact names
  | join joining id given =>
      by_cases here : id = session.id
      · subst here
        by_cases own : joining = frame
        · subst own
          rw [keeps given rfl]
          exact session.names_entered_join joining displayName now
        · have apart : frame ≠ joining := Ne.symm own
          simp only [Session.entered, if_true]
          split
          · refine ⟨?_, ?_⟩
            · rw [hasMember_eq_true, frames_rename, ← hasMember_eq_true]
              exact names.member
            · rw [session.entriesOf_rename_other joining frame given apart]
              exact names.named
          · refine ⟨?_, ?_⟩
            · rw [hasMember_eq_true, enroll, List.map_append]
              exact List.mem_append_left _ (hasMember_eq_true.mp names.member)
            · rw [session.entriesOf_enroll_other joining frame given now apart]
              exact names.named
      · simp only [Session.entered, if_neg here]
        exact names

/-- A name that a member has already changes nothing. -/
theorem Names.rename (names : session.Names frame displayName) :
    session.rename frame displayName = session := by
  have kept : session.members.map (fun member =>
      if member.frame = frame then { member with displayName := some displayName } else member) =
        session.members := by
    refine (List.map_congr_left fun member inside => ?_).trans (List.map_id' session.members)
    split
    · rename_i own
      have entry : member ∈ session.entriesOf frame :=
        List.mem_filter.mpr ⟨inside, beq_iff_eq.mpr own⟩
      rw [← names.named member entry]
    · rfl
  rw [Session.rename, kept]

end Session

/-! ## Tables -/

namespace SessionTable

/-- The records under the other keys, in their order. -/
def others (table : SessionTable) (id : SessionId) : List Session :=
  table.sessions.filter (·.id != id)

variable {table : SessionTable}

theorem others_insertSession (record : Session) (sessions : List Session) :
    (insertSession record sessions).filter (·.id != record.id) =
      sessions.filter (·.id != record.id) := by
  induction sessions with
  | nil =>
      simp [insertSession]
  | cons next rest ih =>
      unfold insertSession
      split
      · simp
      · rw [List.filter_cons, List.filter_cons, ih]

theorem others_modify
    (table : SessionTable) (id : SessionId) {change : Session → Session}
    (keepsKey : ∀ session, (change session).id = session.id) :
    (table.modify id change).others id = table.others id := by
  simp only [others, modify]
  induction table.sessions with
  | nil =>
      rfl
  | cons next rest ih =>
      rw [List.map_cons, List.filter_cons, List.filter_cons, ih]
      by_cases here : next.id = id
      · simp [here, keepsKey]
      · simp [here]

/-- A claim leaves the other records alone, and the room in the table. -/
theorem others_enter_claim
    (table : SessionTable) (now : Instant) (frame : FrameId) (id : SessionId) :
    (table.enter now (.claim frame id)).maxSessions = table.maxSessions ∧
      (table.enter now (.claim frame id)).others id = table.others id := by
  rcases enter_claim table now frame id with same | ⟨_, _, added⟩
  · rw [same]
    exact ⟨rfl, rfl⟩
  · rw [added]
    exact ⟨rfl, others_insertSession (.founded id frame now) table.sessions⟩

/-- So does a wish to join. -/
theorem others_enter_join
    (table : SessionTable) (now : Instant) (frame : FrameId) (id : SessionId)
    (displayName : String) :
    (table.enter now (.join frame id displayName)).maxSessions = table.maxSessions ∧
      (table.enter now (.join frame id displayName)).others id = table.others id := by
  rcases enter_join table now frame id displayName with
    ⟨_, same⟩ | ⟨_, _, change, keepsKey, modified, _⟩
  · rw [same]
    exact ⟨rfl, rfl⟩
  · rw [modified]
    exact ⟨rfl, others_modify table id keepsKey⟩

/-- What is found under another key is among the other records. -/
theorem describe_eq_of_others
    {after : SessionTable} {id : SessionId} (same : after.others id = table.others id)
    {other : SessionId} (different : other ≠ id) :
    after.describe other = table.describe other := by
  have looked : ∀ any : SessionTable,
      any.describe other = (any.others id).find? fun session => session.id == other := by
    intro any
    rw [others, List.find?_filter]
    refine congrArg (fun asked => any.sessions.find? asked) (funext fun session => ?_)
    by_cases here : session.id = other
    · simp [here, different]
    · simp [here]
  rw [looked, looked, same]

/-- A frame is a member of a session under a name. -/
def Names (table : SessionTable) (id : SessionId) (frame : FrameId) (displayName : String) : Prop :=
  ∃ record, table.describe id = some record ∧ record.Names frame displayName

variable {id : SessionId} {frame : FrameId} {displayName : String}

theorem names_enter_join
    {record : Session} (known : table.describe id = some record) (frame : FrameId)
    (displayName : String) (now : Instant) :
    (table.enter now (.join frame id displayName)).Names id frame displayName := by
  refine ⟨_, describe_enter_of_known known now _, ?_⟩
  rw [← id_of_describe known]
  exact record.names_entered_join frame displayName now

theorem Names.enter
    (names : table.Names id frame displayName) (now : Instant) {entrance : Entrance}
    (keeps : ∀ other, entrance = .join frame id other → other = displayName) :
    (table.enter now entrance).Names id frame displayName := by
  rcases names with ⟨record, known, named⟩
  refine ⟨_, describe_enter_of_known known now entrance, named.entered now ?_⟩
  rw [id_of_describe known]
  exact keeps

/-- A member that joins again under its name finds the table as it leaves it. -/
theorem Names.enter_join
    (names : table.Names id frame displayName) (ordered : Ordered table.sessions)
    (now : Instant) :
    table.enter now (.join frame id displayName) = table := by
  rcases names with ⟨record, known, named⟩
  have only : ∀ session ∈ table.sessions, session.id = id → session = record := by
    rintro session inside rfl
    rcases (mem_sessions_iff ordered).mp inside with ⟨key, found⟩
    rw [← id_of_describe found] at found
    exact Option.some.inj (found.symm.trans known)
  have kept : table.sessions.map (fun session =>
      if session.id = id then session.rename frame displayName else session) =
        table.sessions := by
    refine (List.map_congr_left fun session inside => ?_).trans (List.map_id' table.sessions)
    split
    · rename_i here
      rw [only session inside here]
      exact named.rename
    · rfl
  simp only [SessionTable.enter, join, known, named.member, if_true, modify, kept]

end SessionTable

/-! ## Steps -/

namespace Step

/-- The answer refuses what the command asks for. -/
def Refused (step : Step) : Prop :=
  (∃ error, step.reply = .registered (.error error)) ∨
    (∃ error, step.reply = .claimed (.error error)) ∨
      step.reply = .claimed (.ok false) ∨ step.reply = .joined false

/-- The command asks for what cannot be or is already: a frame goes that is not there, a session is
claimed that has an owner, be it the claimant, or one is joined that has none.  Or it only asks. -/
def Idle (step : Step) : Prop :=
  match step.command with
  | .register => False
  | .unregister frame => frame ∉ step.before.frames.toList
  | .claim _ session => ∃ owner, step.before.owner? session = some owner
  | .join _ session _ => step.before.owner? session = none
  | .describe _ | .list | .count | .deliver _ _ => True

/-- What a step of a switchboard within limits changes, and what it leaves as it is. -/
structure Confined (limits : Limits) (step : Step) : Prop where
  unchanged : step.Refused ∨ step.Idle → step.after = step.before
  full :
    ∀ max, step.reply = .claimed (.error (.tooManySessions max)) ↔
      max = limits.maxSessions ∧ step.before.table.size = limits.maxSessions ∧
        ∃ frame session, step.command = .claim frame session ∧
          step.before.table.describe session = none
  comes :
    ∀ frame, step.reply = .registered (.ok frame) →
      step.after.table = step.before.table ∧ step.after.maxFrames = step.before.maxFrames ∧
        step.after.nextFrame = Switchboard.successor step.before.nextFrame ∧
          ∀ other, other ∈ step.after.frames.toList ↔
            other = frame ∨ other ∈ step.before.frames.toList
  goes :
    ∀ frame, step.command = .unregister frame →
      step.after.table = step.before.table ∧ step.after.maxFrames = step.before.maxFrames ∧
        step.after.nextFrame = step.before.nextFrame ∧
          ∀ other, other ∈ step.after.frames.toList ↔
            other ∈ step.before.frames.toList ∧ other ≠ frame
  enters :
    ∀ frame session,
      (step.command = .claim frame session ∨
          ∃ displayName, step.command = .join frame session displayName) →
        step.before.Steady step.after ∧
          step.after.table.maxSessions = step.before.table.maxSessions ∧
            step.after.table.others session = step.before.table.others session ∧
              ∀ other, other ≠ session →
                step.after.table.describe other = step.before.table.describe other

variable {limits : Limits} {step : Step}

/-- Whatever becomes of a claim, it reaches the table only. -/
theorem after_of_claim
    {frame : FrameId} {session : SessionId} (asked : step.command = .claim frame session) :
    step.after = { step.before with
      table := step.before.table.enter step.now (.claim frame session) } := by
  rw [after, turn, asked]
  simp only [Switchboard.handle, Turn.map, Switchboard.claim, SessionTable.enter]
  cases step.before.table.claim frame session step.now <;> rfl

theorem after_of_join
    {frame : FrameId} {session : SessionId} {displayName : String}
    (asked : step.command = .join frame session displayName) :
    step.after = { step.before with
      table := step.before.table.enter step.now (.join frame session displayName) } := by
  rw [after, turn, asked]
  rfl

theorem after_of_idle (idle : step.Idle) : step.after = step.before := by
  unfold Idle at idle
  split at idle
  · exact idle.elim
  · rename_i frame asked
    rw [after, turn, asked]
    have absent : ¬ step.before.frames.contains frame = true := by
      rw [FrameSet.contains_eq_true]
      exact idle
    simp only [Switchboard.handle, Turn.map, Switchboard.unregister, if_neg absent]
  · rename_i frame session asked
    rcases idle with ⟨owner, owned⟩
    rw [after, turn, asked]
    exact (Switchboard.claim_of_owned owned frame step.now).2
  · rename_i frame session displayName asked
    rw [after, turn, asked]
    have absent : step.before.table.describe session = none := Option.map_eq_none_iff.mp idle
    simp only [Switchboard.handle, Turn.map, Switchboard.join, SessionTable.join, absent]
  all_goals
    rename_i asked
    rw [after, turn, asked]
    rfl

theorem after_of_refused (refused : step.Refused) : step.after = step.before := by
  rcases step with ⟨board, now, command⟩
  cases command with
  | register =>
      have said : ∃ error, board.register.reply = .error error := by
        simpa [Refused, reply, turn, Switchboard.handle, Turn.map] using refused
      rcases said with ⟨error, said⟩
      exact board.board_of_register_refused said
  | claim frame session =>
      rcases board.claim_cases frame session now with ⟨_, _, answer⟩ | ⟨_, answer | answer⟩
      · exact congrArg Turn.board answer
      · exact congrArg Turn.board answer
      · simp [Refused, reply, turn, Switchboard.handle, Turn.map, answer] at refused
  | join frame session displayName =>
      rcases board.join_cases frame session displayName now with ⟨_, answer⟩ | ⟨_, answer⟩
      · exact congrArg Turn.board answer
      · simp [Refused, reply, turn, Switchboard.handle, Turn.map, answer] at refused
  | unregister | describe | list | count | deliver =>
      simp [Refused, reply, turn, Switchboard.handle, Turn.map] at refused

end Step

namespace Switchboard

/-- A claim is refused for want of room when there is no record and no room for one. -/
theorem claim_eq_tooManySessions_iff
    {board : Switchboard} {frame : FrameId} {session : SessionId} {now : Instant} {max : Nat} :
    (board.claim frame session now).reply = .error (.tooManySessions max) ↔
      board.table.describe session = none ∧ board.table.maxSessions ≤ board.table.size ∧
        max = board.table.maxSessions := by
  cases known : board.table.describe session with
  | some record =>
      simp [claim, SessionTable.claim, known]
  | none =>
      by_cases full : board.table.maxSessions ≤ board.table.size
      · simp [claim, SessionTable.claim, known, full, eq_comm]
      · simp [claim, SessionTable.claim, known, full]

end Switchboard

namespace Step

variable {limits : Limits} {step : Step}

theorem tooManySessions_iff
    (formed : step.before.table.Formed limits.maxSessions) (max : Nat) :
    step.reply = .claimed (.error (.tooManySessions max)) ↔
      max = limits.maxSessions ∧ step.before.table.size = limits.maxSessions ∧
        ∃ frame session, step.command = .claim frame session ∧
          step.before.table.describe session = none := by
  rcases step with ⟨board, now, command⟩
  have limit : board.table.maxSessions = limits.maxSessions := formed.limit
  have room : board.table.size ≤ limits.maxSessions := formed.room
  cases command with
  | claim frame session =>
      simp only [reply, turn, Switchboard.handle, Turn.map, Reply.claimed.injEq,
        Switchboard.claim_eq_tooManySessions_iff, Command.claim.injEq]
      rw [limit]
      constructor
      · rintro ⟨unknown, full, rfl⟩
        exact ⟨rfl, Nat.le_antisymm room full, frame, session, ⟨rfl, rfl⟩, unknown⟩
      · rintro ⟨rfl, size, _, _, ⟨rfl, rfl⟩, unknown⟩
        exact ⟨unknown, Nat.le_of_eq size.symm, rfl⟩
  | register | unregister | join | describe | list | count | deliver =>
      simp [reply, turn, Switchboard.handle, Turn.map]

/-- Every step of a switchboard with a formed table is confined to what it names. -/
theorem confined (formed : step.before.table.Formed limits.maxSessions) :
    step.Confined limits where
  unchanged := by
    rintro (refused | idle)
    · exact after_of_refused refused
    · exact after_of_idle idle
  full := tooManySessions_iff formed
  comes := by
    intro frame admitted
    rcases step with ⟨board, now, command⟩
    cases command with
    | register =>
        have said : board.register.reply = .ok frame := Reply.registered.inj admitted
        rcases board.register_of_ok said with ⟨_, table, next⟩
        refine ⟨table, ?_, next, board.frames_register.1 frame said⟩
        by_cases full : board.maxFrames ≤ board.frames.size
        · rw [board.register_of_full full] at said
          cases said
        · simp only [after, turn, Switchboard.handle, Turn.map, board.register_of_room full]
    | unregister | claim | join | describe | list | count | deliver =>
        simp [reply, turn, Switchboard.handle, Turn.map] at admitted
  goes := by
    intro frame asked
    rw [after, turn, asked]
    rcases step.before.kept_unregister frame with ⟨table, next⟩
    refine ⟨table, ?_, next, step.before.frames_unregister frame⟩
    simp only [Switchboard.handle, Turn.map, Switchboard.unregister]
    split <;> rfl
  enters := by
    have spared : ∀ table session, step.after = { step.before with table } →
        table.maxSessions = step.before.table.maxSessions ∧
            table.others session = step.before.table.others session →
          step.before.Steady step.after ∧
            step.after.table.maxSessions = step.before.table.maxSessions ∧
              step.after.table.others session = step.before.table.others session ∧
                ∀ other, other ≠ session →
                  step.after.table.describe other = step.before.table.describe other := by
      rintro table session reached ⟨limit, others⟩
      rw [reached]
      exact ⟨⟨rfl, rfl, rfl⟩, limit, others, fun _ => SessionTable.describe_eq_of_others others⟩
    rintro frame session (asked | ⟨displayName, asked⟩)
    · exact spared _ session (after_of_claim asked)
        (step.before.table.others_enter_claim step.now frame session)
    · exact spared _ session (after_of_join asked)
        (step.before.table.others_enter_join step.now frame session displayName)

/-- A wish to join that is granted makes the frame a member under its name. -/
theorem names_of_joined
    {frame : FrameId} {session : SessionId} {displayName : String}
    (asked : step.command = .join frame session displayName) (granted : step.reply = .joined true) :
    step.after.table.Names session frame displayName := by
  have said : (step.before.join frame session displayName step.now).reply = true := by
    rw [reply, turn, asked] at granted
    exact Reply.joined.inj granted
  rcases step.before.join_cases frame session displayName step.now with
    ⟨_, refused⟩ | ⟨⟨record, known⟩, _⟩
  · rw [refused] at said
    cases said
  · rw [after_of_join asked]
    exact SessionTable.names_enter_join known frame displayName step.now

/-- A member keeps its name over every step that does not give it another one. -/
theorem names_after
    {frame : FrameId} {session : SessionId} {displayName : String}
    (keeps : ∀ other, step.command = .join frame session other → other = displayName)
    (names : step.before.table.Names session frame displayName) :
    step.after.table.Names session frame displayName := by
  cases asked : step.command with
  | claim claimant id =>
      rw [after_of_claim asked]
      exact names.enter step.now nofun
  | join joining id given =>
      rw [after_of_join asked]
      refine names.enter step.now fun other same => keeps other ?_
      cases same
      exact asked
  | register =>
      rw [after, turn, asked]
      simp only [Switchboard.handle, Turn.map, Switchboard.register]
      split <;> exact names
  | unregister other =>
      rw [after, turn, asked, Switchboard.handle, Turn.map, (step.before.kept_unregister other).1]
      exact names
  | describe | list | count | deliver =>
      rw [after, turn, asked]
      exact names

end Step

/-- A frame asks again for the session that it has entered before. -/
structure Step.Repeats (step : Step) (between : List Step) (again : Step) : Prop where
  same : again.command = step.command
  granted :
    (∃ frame session, step.command = .claim frame session ∧ step.reply = .claimed (.ok true)) ∨
      ∃ frame session displayName, step.command = .join frame session displayName ∧
        step.reply = .joined true ∧
          ∀ later ∈ between, ∀ other, later.command = .join frame session other →
            other = displayName

namespace Switchboard

/-- A claim or a wish to join that is granted once is granted again, and changes nothing then. -/
theorem kept_of_repeats
    {board : Switchboard} {commands : List (Instant × Command)} {maxSessions : Nat}
    (formed : board.table.Formed maxSessions) {past between future : List Step} {step again : Step}
    (split : board.run commands = past ++ step :: between ++ again :: future)
    (repeats : step.Repeats between again) :
    again.reply = step.reply ∧ again.after = again.before := by
  have inside : again ∈ board.run commands := by
    rw [split]
    exact List.mem_append_right _ List.mem_cons_self
  have formedThen : again.before.table.Formed maxSessions :=
    (holds_of_mem_run (fun board => board.table.Formed maxSessions)
      (fun step formed => formed_handle formed step.now step.command) formed inside).1
  rw [List.append_assoc, List.cons_append] at split
  rcases run_eq_append split with ⟨rest, here⟩
  rcases before_of_run_eq_cons here.symm with ⟨_, later, continues⟩
  rcases run_eq_append continues.symm with ⟨last, there⟩
  rcases before_of_run_eq_cons there.symm with ⟨reached, _⟩
  rcases repeats.granted with
    ⟨frame, session, asked, granted⟩ | ⟨frame, session, displayName, asked, granted, keeps⟩
  · have won : step.winner? session = some frame := by
      simp [Step.winner?, asked, granted]
    have respects := respects_of_mem_after_winner split won
      (List.mem_append_right between List.mem_cons_self)
    have asks : again.command = .claim frame session := repeats.same.trans asked
    refine ⟨(respects.answersOwner asks).trans granted.symm, Step.after_of_idle ?_⟩
    rw [Step.Idle, asks]
    exact ⟨frame, respects.described⟩
  · have names : again.before.table.Names session frame displayName := by
      rw [reached]
      exact holds_afterSteps_of_forall (fun board => board.table.Names session frame displayName)
        (fun later => ∀ other, later.command = .join frame session other → other = displayName)
        (fun _ keeps => Step.names_after keeps) continues.symm
        (Step.names_of_joined asked granted) keeps
    have asks : again.command = .join frame session displayName := repeats.same.trans asked
    constructor
    · rcases names with ⟨record, known, _⟩
      rw [Step.reply_of_join asks, granted, owner?, SessionTable.owner?, known]
      rfl
    · rw [Step.after_of_join asks, names.enter_join formedThen.ordered]

/--
Whatever a switchboard has been asked, a step that is refused or asks for what is so already leaves
all of it as it was, and any other step changes only what its command names.  A claim finds no room
exactly when its session has no record and the table is full.  And once a frame has entered a
session, by a claim or under a name, asking for that again is granted and changes nothing.
-/
theorem changes_confined (limits : Limits) (commands : List (Instant × Command)) :
    (∀ step ∈ (empty limits).run commands, step.Confined limits) ∧
      ∀ past step between again future,
        (empty limits).run commands = past ++ step :: between ++ again :: future →
          step.Repeats between again →
            again.reply = step.reply ∧ again.after = again.before := by
  have formed : (empty limits).table.Formed limits.maxSessions :=
    SessionTable.formed_empty limits.maxSessions
  refine ⟨fun step inside => Step.confined ?_, fun past step between again future split repeats =>
    kept_of_repeats formed split repeats⟩
  exact (holds_of_mem_run (fun board => board.table.Formed limits.maxSessions)
    (fun step formed => formed_handle formed step.now step.command) formed inside).1

/-- In a full table a stranger is refused, and a member may take its name again. -/
theorem refused_and_repeated :
    let run := (empty ⟨2, 1⟩).run
      [(.epoch, .register), (.epoch, .register), (.epoch, .claim ⟨1⟩ ⟨"plan"⟩),
        (.epoch, .join ⟨2⟩ ⟨"plan"⟩ "guest"), (.epoch, .claim ⟨2⟩ ⟨"other"⟩),
        (.epoch, .join ⟨2⟩ ⟨"plan"⟩ "guest")]
    (run[4]?.map fun step => (step.reply, step.after)) =
        run[4]?.map (fun step => (.claimed (.error (.tooManySessions 1)), step.before)) ∧
      (run[5]?.map fun step => (step.reply, step.after)) =
        run[5]?.map (fun step => (.joined true, step.before)) := by
  intro run
  have confined := changes_confined ⟨2, 1⟩
    [(.epoch, .register), (.epoch, .register), (.epoch, .claim ⟨1⟩ ⟨"plan"⟩),
      (.epoch, .join ⟨2⟩ ⟨"plan"⟩ "guest"), (.epoch, .claim ⟨2⟩ ⟨"other"⟩),
      (.epoch, .join ⟨2⟩ ⟨"plan"⟩ "guest")]
  have refused := (confined.1 (run.get ⟨4, by decide⟩) (List.get_mem _ _)).unchanged
    (.inl (.inr (.inl ⟨.tooManySessions 1, rfl⟩)))
  have repeated := confined.2 (run.take 3) (run.get ⟨3, by decide⟩) [run.get ⟨4, by decide⟩]
    (run.get ⟨5, by decide⟩) [] rfl
    { same := rfl
      granted := by
        refine .inr ⟨⟨2⟩, ⟨"plan"⟩, "guest", rfl, rfl, fun later inside other asked => ?_⟩
        cases List.mem_singleton.mp inside
        cases asked }
  exact ⟨congrArg (fun board => some (Reply.claimed (.error (.tooManySessions 1)), board)) refused,
    congrArg (fun board => some (Reply.joined true, board)) repeated.2⟩

end Switchboard

end SessionBus
